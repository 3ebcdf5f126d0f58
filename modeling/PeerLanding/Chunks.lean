import Mathlib.Data.List.Basic

/-! Messages on a stream without framing. A message is written field by field, and a receiver
takes the fields of a chunk for one message. It reads the messages that were sent exactly
when every chunk is one message, however the stream was cut. -/

namespace PeerLanding.Chunks

variable {β F α : Type}

/-- How the messages of one type are made of fields, and how the fields are read. -/
structure Schema (β F α : Type) where
  fields : α → List F
  read : List β → Option (F × List β)
  ofFields : List F → Option α

/-- A field that is written is read back, and what follows a field has no part in reading it. -/
structure SelfDelimiting (write : F → List β) (read : List β → Option (F × List β)) : Prop where
  write_ne_nil : ∀ f, write f ≠ []
  read_write : ∀ f rest, read (write f ++ rest) = some (f, rest)
  read_append : ∀ bs more f rest, read bs = some (f, rest) →
    read (bs ++ more) = some (f, rest ++ more)

/-- Every field takes at least one element, so the length is enough fuel. -/
def readFuel (read : List β → Option (F × List β)) : Nat → List β → Option (List F)
  | _, [] => some []
  | 0, _ :: _ => none
  | fuel + 1, b :: bs => do
      let (f, rest) ← read (b :: bs)
      let fs ← readFuel read fuel rest
      return f :: fs

def Schema.decode (s : Schema β F α) (bs : List β) : Option α :=
  (readFuel s.read bs.length bs).bind s.ofFields

def Schema.encode (write : F → List β) (s : Schema β F α) (m : α) : List β :=
  (s.fields m).flatMap write

/-- What a decoder of messages is expected to do for the messages that are sent. The fields
of a decoded message have all been read. -/
structure Schema.Lawful (write : F → List β) (s : Schema β F α) (Complete : α → Prop) :
    Prop where
  delimiting : SelfDelimiting write s.read
  fields_ne_nil : ∀ m, Complete m → s.fields m ≠ []
  ofFields_fields : ∀ m, Complete m → s.ofFields (s.fields m) = some m
  length_fields_le : ∀ fs m, Complete m → s.ofFields fs = some m →
    (s.fields m).length ≤ fs.length

theorem readFuel_flatMap {write : F → List β} {read : List β → Option (F × List β)}
    (h : SelfDelimiting write read) (fs : List F) (fuel : Nat)
    (enough : (fs.flatMap write).length ≤ fuel) :
    readFuel read fuel (fs.flatMap write) = some fs := by
  induction fs generalizing fuel with
  | nil => cases fuel <;> rfl
  | cons f fs ih =>
      have here := h.read_write f (fs.flatMap write)
      rw [List.flatMap_cons] at enough ⊢
      cases first : write f with
      | nil => exact absurd first (h.write_ne_nil f)
      | cons b bs =>
          rw [first, List.cons_append] at here enough
          rw [List.length_cons, List.length_append] at enough
          cases fuel with
          | zero => omega
          | succ fuel =>
              rw [List.cons_append, readFuel, here]
              simp [ih fuel (by omega)]

theorem Schema.Lawful.decode_encode {write : F → List β} {s : Schema β F α}
    {Complete : α → Prop} (h : s.Lawful write Complete) {m : α} (complete : Complete m) :
    s.decode (s.encode write m) = some m := by
  rw [decode, encode, readFuel_flatMap h.delimiting _ _ (Nat.le_refl _), Option.bind_some]
  exact h.ofFields_fields m complete

theorem Schema.Lawful.encode_ne_nil {write : F → List β} {s : Schema β F α}
    {Complete : α → Prop} (h : s.Lawful write Complete) {m : α} (complete : Complete m) :
    s.encode write m ≠ [] := by
  cases fields : s.fields m with
  | nil => exact absurd fields (h.fields_ne_nil m complete)
  | cons f fs => simp [encode, fields, h.delimiting.write_ne_nil f]

theorem fields_of_chunk {write : F → List β} {read : List β → Option (F × List β)}
    (h : SelfDelimiting write read) {fuel : Nat} {chunk rest : List β} {fs gs : List F}
    (stream : chunk ++ rest = fs.flatMap write) (chunk_read : readFuel read fuel chunk = some gs) :
    ∃ later, fs = gs ++ later ∧ chunk = gs.flatMap write ∧ rest = later.flatMap write := by
  induction fuel generalizing chunk fs gs with
  | zero =>
      cases chunk with
      | nil =>
          cases chunk_read
          exact ⟨fs, rfl, rfl, stream⟩
      | cons b bs => simp [readFuel] at chunk_read
  | succ fuel ih =>
      cases chunk with
      | nil =>
          cases chunk_read
          exact ⟨fs, rfl, rfl, stream⟩
      | cons b bs =>
          simp only [readFuel, bind, pure, Option.bind_eq_some_iff, Option.some.injEq]
            at chunk_read
          obtain ⟨⟨g, after⟩, first, gs', others, rfl⟩ := chunk_read
          cases fs with
          | nil => simp at stream
          | cons f fs =>
              rw [List.flatMap_cons] at stream
              have longer := h.read_append _ rest _ _ first
              rw [stream, h.read_write, Option.some.injEq, Prod.mk.injEq] at longer
              obtain ⟨rfl, next⟩ := longer
              obtain ⟨later, rfl, rfl, rfl⟩ := ih next.symm others
              refine ⟨later, rfl, ?_, rfl⟩
              rw [next, ← List.append_assoc] at stream
              simpa using List.append_cancel_right stream

/-- The first chunks are read, each with as many fields as its message has, or more. -/
inductive Reads (write : F → List β) : List (List F) → List (List β) → Prop where
  | nil (chunks : List (List β)) : Reads write [] chunks
  | cons {read : List β → Option (F × List β)} {fuel : Nat} {fields gs : List F}
      {sent : List (List F)} {chunk : List β} {chunks : List (List β)}
      (delimiting : SelfDelimiting write read) (chunk_read : readFuel read fuel chunk = some gs)
      (enough : fields.length ≤ gs.length) (more : Reads write sent chunks) :
      Reads write (fields :: sent) (chunk :: chunks)

theorem Reads.message {write : F → List β} {s : Schema β F α} {Complete : α → Prop}
    (h : s.Lawful write Complete) {m : α} (complete : Complete m) {sent : List (List F)}
    {chunk : List β} {chunks : List (List β)} (decoded : s.decode chunk = some m)
    (more : Reads write sent chunks) : Reads write (s.fields m :: sent) (chunk :: chunks) := by
  obtain ⟨gs, chunk_read, whole⟩ := Option.bind_eq_some_iff.1 decoded
  exact .cons h.delimiting chunk_read (h.length_fields_le gs m complete whole) more

theorem Reads.length_le {write : F → List β} {sent : List (List F)} {chunks : List (List β)}
    (h : Reads write sent chunks) {fs : List F} (stream : chunks.flatten = fs.flatMap write) :
    sent.flatten.length ≤ fs.length := by
  induction h generalizing fs with
  | nil chunks => exact Nat.zero_le _
  | cons delimiting chunk_read enough more ih =>
      rw [List.flatten_cons] at stream
      obtain ⟨later, rfl, rfl, rest⟩ := fields_of_chunk delimiting stream chunk_read
      have fewer := ih rest
      simp only [List.flatten_cons, List.length_append]
      omega

/-- No chunk can have more fields than its message, because another would have too few. -/
theorem Reads.chunks_eq {write : F → List β} {sent : List (List F)} {chunks : List (List β)}
    (h : Reads write sent chunks) (nonempty : ∀ chunk ∈ chunks, chunk ≠ [])
    (stream : chunks.flatten = sent.flatten.flatMap write) :
    chunks = sent.map (·.flatMap write) := by
  induction h with
  | nil chunks =>
      have nothing : chunks.flatten = [] := stream
      rw [List.flatten_eq_nil_iff] at nothing
      cases chunks with
      | nil => rfl
      | cons chunk chunks =>
          exact absurd (nothing chunk (List.mem_cons_self ..))
            (nonempty chunk (List.mem_cons_self ..))
  | @cons read fuel fields gs sent chunk chunks delimiting chunk_read enough more ih =>
      rw [List.flatten_cons, List.flatten_cons] at stream
      obtain ⟨later, all, rfl, rest⟩ := fields_of_chunk delimiting stream chunk_read
      have fewer := more.length_le rest
      have total := congrArg List.length all
      rw [List.length_append, List.length_append] at total
      obtain ⟨rfl, rfl⟩ := List.append_inj all (by omega)
      rw [List.map_cons, ← ih (fun c hc => nonempty c (List.mem_cons_of_mem _ hc)) rest]

end PeerLanding.Chunks
