import Mathlib.Data.List.Basic

/-! Readers that take one word of a language off the front of a list. What such a reader does is
said by the language alone: where a word ends is decided by the word, never by what follows. -/

namespace PeerLanding.Words

variable {β α γ σ : Type}

/-- `read` takes the words of `L` off the front of a list, and fails where there is none. -/
def Reads (read : List β → Option (α × List β)) (L : List β → α → Prop) : Prop :=
  ∀ bs a rest, read bs = some (a, rest) ↔ ∃ w, bs = w ++ rest ∧ L w a

/-- `skip` drops the words with `P` from the front of a list. -/
def Skips (skip : List β → Option (List β)) (P : List β → Prop) : Prop :=
  ∀ bs rest, skip bs = some rest ↔ ∃ w, bs = w ++ rest ∧ P w

section Reads

variable {read : List β → Option (α × List β)} {L L' : List β → α → Prop} {a a' : α}
  {w w' bs rest rest' : List β}

theorem Reads.of_word (h : Reads read L) (word : L w a) (rest : List β) :
    read (w ++ rest) = some (a, rest) :=
  (h _ a rest).2 ⟨w, rfl, word⟩

theorem Reads.unique (h : Reads read L) (word : L w a) (word' : L w' a')
    (same : w ++ rest = w' ++ rest') : a = a' ∧ w = w' ∧ rest = rest' := by
  have first := h.of_word word rest
  rw [same, h.of_word word' rest', Option.some.injEq, Prod.mk.injEq] at first
  obtain ⟨rfl, rfl⟩ := first
  exact ⟨rfl, List.append_cancel_right same, rfl⟩

theorem Reads.congr (h : Reads read L) (same : ∀ w a, L w a ↔ L' w a) : Reads read L' := by
  intro bs a rest
  rw [h]
  exact exists_congr fun w => and_congr_right fun _ => same w a

theorem Reads.bind {next : α → List β → Option (γ × List β)} {M : α → List β → γ → Prop}
    (h : Reads read L) (k : ∀ a, Reads (next a) (M a)) :
    Reads (fun bs => (read bs).bind fun p => next p.1 p.2)
      fun w c => ∃ a u v, w = u ++ v ∧ L u a ∧ M a v c := by
  intro bs c rest
  rw [Option.bind_eq_some_iff]
  constructor
  · rintro ⟨⟨a, later⟩, first, second⟩
    obtain ⟨u, rfl, word⟩ := (h _ _ _).1 first
    obtain ⟨v, rfl, word'⟩ := (k a _ _ _).1 second
    exact ⟨u ++ v, (List.append_assoc ..).symm, a, u, v, rfl, word, word'⟩
  · rintro ⟨_, rfl, a, u, v, rfl, word, word'⟩
    rw [List.append_assoc]
    exact ⟨(a, v ++ rest), h.of_word word _, (k a).of_word word' rest⟩

theorem Reads.map (h : Reads read L) (f : α → γ) :
    Reads (fun bs => (read bs).map fun p => (f p.1, p.2)) fun w c => ∃ a, L w a ∧ c = f a := by
  intro bs c rest
  rw [Option.map_eq_some_iff]
  constructor
  · rintro ⟨⟨a, later⟩, first, both⟩
    obtain ⟨rfl, rfl⟩ := Prod.mk.inj both
    obtain ⟨w, rfl, word⟩ := (h _ _ _).1 first
    exact ⟨w, rfl, a, word, rfl⟩
  · rintro ⟨w, rfl, a, word, rfl⟩
    exact ⟨(a, rest), h.of_word word rest, rfl⟩

theorem Reads.skip (h : Reads read L) :
    Skips (fun bs => (read bs).map (·.2)) fun w => ∃ a, L w a := by
  intro bs rest
  rw [Option.map_eq_some_iff]
  constructor
  · rintro ⟨⟨a, later⟩, taken, rfl⟩
    obtain ⟨w, whole, word⟩ := (h _ _ _).1 taken
    exact ⟨w, whole, a, word⟩
  · rintro ⟨w, rfl, a, word⟩
    exact ⟨(a, rest), h.of_word word rest, rfl⟩

theorem Skips.reads {skip : List β → Option (List β)} {P : List β → Prop} (h : Skips skip P)
    (a : α) : Reads (fun bs => (skip bs).map fun rest => (a, rest)) fun w x => P w ∧ x = a := by
  intro bs x rest
  rw [Option.map_eq_some_iff]
  constructor
  · rintro ⟨later, gone, both⟩
    obtain ⟨rfl, rfl⟩ := Prod.mk.inj both
    obtain ⟨w, rfl, word⟩ := (h _ _).1 gone
    exact ⟨w, rfl, word, rfl⟩
  · rintro ⟨w, rfl, word, rfl⟩
    exact ⟨rest, (h _ _).2 ⟨w, rfl, word⟩, rfl⟩

def take (n : Nat) (bs : List β) : Option (List β × List β) :=
  if n ≤ bs.length then some (bs.take n, bs.drop n) else none

theorem reads_take (n : Nat) :
    Reads (take n : List β → _) fun w a => a = w ∧ w.length = n := by
  intro bs a rest
  rw [take, Option.ite_none_right_eq_some, Option.some.injEq, Prod.mk.injEq]
  constructor
  · rintro ⟨enough, rfl, rfl⟩
    exact ⟨bs.take n, (List.take_append_drop n bs).symm, rfl, List.length_take_of_le enough⟩
  · rintro ⟨w, rfl, rfl, rfl⟩
    simp

end Reads

/-! ### Lists of words -/

/-- A list of words, one after another. -/
inductive Text (L : List β → α → Prop) : List β → List α → Prop
  | nil : Text L [] []
  | cons {w rest : List β} {a : α} {as : List α} (word : L w a) (later : Text L rest as) :
      Text L (w ++ rest) (a :: as)

/-- Read words until nothing is left. -/
def fold (read : List β → Option (α × List β)) (f : σ → α → σ) : Nat → List β → σ → Option σ
  | _, [], s => some s
  | 0, _ :: _, _ => none
  | fuel + 1, b :: bs, s => (read (b :: bs)).bind fun p => fold read f fuel p.2 (f s p.1)

section Text

variable {read : List β → Option (α × List β)} {L L' : List β → α → Prop} {f : σ → α → σ}
  {bs cs : List β} {as as' : List α} {s s' : σ}

theorem Text.append (h : Text L bs as) (h' : Text L cs as') : Text L (bs ++ cs) (as ++ as') := by
  induction h with
  | nil => exact h'
  | cons word _ ih =>
      rw [List.append_assoc]
      exact .cons word ih

theorem Text.singleton {w : List β} {a : α} (word : L w a) : Text L w [a] := by
  have text := Text.cons word .nil
  rwa [List.append_nil] at text

theorem Text.mem {a : α} (h : Text L bs as) (ha : a ∈ as) : ∃ w, L w a := by
  induction h with
  | nil => cases ha
  | cons word _ ih =>
      cases ha with
      | head => exact ⟨_, word⟩
      | tail _ later => exact ih later

theorem Text.unique (h : Reads read L) (nonempty : ∀ w a, L w a → w ≠ []) (text : Text L bs as)
    (text' : Text L bs as') : as = as' := by
  induction text generalizing as' with
  | nil =>
      generalize empty : ([] : List β) = bs at text'
      cases text' with
      | nil => rfl
      | cons word _ => exact absurd (List.append_eq_nil_iff.1 empty.symm).1 (nonempty _ _ word)
  | @cons w rest a as word later ih =>
      generalize whole : w ++ rest = bs at text'
      cases text' with
      | nil => exact absurd (List.append_eq_nil_iff.1 whole).1 (nonempty _ _ word)
      | cons word' later' =>
          obtain ⟨rfl, rfl, rfl⟩ := h.unique word word' whole
          rw [ih later']

theorem length_rest_le {w rest : List β} {fuel : Nat} (nonempty : w ≠ [])
    (enough : (w ++ rest).length ≤ fuel + 1) : rest.length ≤ fuel := by
  have some' := List.length_pos_of_ne_nil nonempty
  rw [List.length_append] at enough
  omega

/-- The words of a text are read in their order, and nothing but a text is read to its end. -/
theorem fold_eq_some (h : Reads read L) (nonempty : ∀ w a, L w a → w ≠ []) {fuel : Nat}
    (enough : bs.length ≤ fuel) :
    fold read f fuel bs s = some s' ↔ ∃ as, Text L bs as ∧ s' = as.foldl f s := by
  induction fuel generalizing bs s with
  | zero =>
      obtain rfl := List.length_eq_zero_iff.1 (Nat.le_zero.1 enough)
      constructor
      · rintro ⟨⟩
        exact ⟨[], .nil, rfl⟩
      · rintro ⟨as, text, rfl⟩
        rw [Text.unique h nonempty text .nil]
        rfl
  | succ fuel ih =>
      cases bs with
      | nil =>
          constructor
          · rintro ⟨⟩
            exact ⟨[], .nil, rfl⟩
          · rintro ⟨as, text, rfl⟩
            rw [Text.unique h nonempty text .nil]
            rfl
      | cons b bs =>
          rw [fold, Option.bind_eq_some_iff]
          constructor
          · rintro ⟨⟨a, rest⟩, first, later⟩
            obtain ⟨w, whole, word⟩ := (h _ _ _).1 first
            have enough' := length_rest_le (nonempty _ _ word) (whole ▸ enough)
            obtain ⟨as, text, rfl⟩ := (ih enough').1 later
            exact ⟨a :: as, whole ▸ .cons word text, rfl⟩
          · rintro ⟨as, text, rfl⟩
            generalize whole : b :: bs = cs at text
            cases text with
            | nil => cases whole
            | @cons w rest a as word later =>
                have enough' := length_rest_le (nonempty _ _ word) (whole ▸ enough)
                exact ⟨(a, rest), h.of_word word rest, (ih enough').2 ⟨as, later, rfl⟩⟩

theorem Text.rest (h : Reads read L) (nonempty : ∀ w a, L w a → w ≠ []) (text : Text L bs as)
    (whole : Text L (bs ++ cs) as') : ∃ later, as' = as ++ later ∧ Text L cs later := by
  induction text generalizing as' with
  | nil => exact ⟨as', rfl, whole⟩
  | @cons w rest a as word _ ih =>
      generalize same : w ++ rest ++ cs = bs at whole
      rw [List.append_assoc] at same
      cases whole with
      | nil => exact absurd (List.append_eq_nil_iff.1 same).1 (nonempty _ _ word)
      | cons word' whole' =>
          obtain ⟨rfl, rfl, rfl⟩ := h.unique word word' same
          obtain ⟨later, rfl, text'⟩ := ih whole'
          exact ⟨later, rfl, text'⟩

theorem fold_append (h : Reads read L) (nonempty : ∀ w a, L w a → w ≠ []) (text : Text L bs as)
    {fuel fuel' : Nat} (enough : (bs ++ cs).length ≤ fuel) (enough' : cs.length ≤ fuel') :
    fold read f fuel (bs ++ cs) s = fold read f fuel' cs (as.foldl f s) := by
  refine Option.ext fun s' => ?_
  rw [fold_eq_some h nonempty enough, fold_eq_some h nonempty enough']
  constructor
  · rintro ⟨all, whole, rfl⟩
    obtain ⟨later, rfl, text'⟩ := text.rest h nonempty whole
    exact ⟨later, text', List.foldl_append ..⟩
  · rintro ⟨as', text', rfl⟩
    exact ⟨as ++ as', text.append text', (List.foldl_append ..).symm⟩

theorem foldl_add {op : σ → σ → σ} {e : σ} (assoc : ∀ x y z, op (op x y) z = op x (op y z))
    (unit : ∀ x, op x e = x) {us : List (σ → σ)} (adds : ∀ u ∈ us, ∀ x, u x = op x (u e)) (x : σ) :
    us.foldl (fun x u => u x) x = op x (us.foldl (fun x u => u x) e) := by
  induction us generalizing x with
  | nil => exact (unit x).symm
  | cons u us ih =>
      have later := ih fun u' hu' => adds u' (List.mem_cons_of_mem u hu')
      rw [List.foldl_cons, List.foldl_cons, later (u x), later (u e), adds u List.mem_cons_self x,
        assoc]

end Text

end PeerLanding.Words
