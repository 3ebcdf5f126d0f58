import PeerLanding.Exchange.Specs

/-! The allocation of an auction's bids: they are taken in rate order, and the loop
stops with the bid that reaches the amount. -/

namespace PeerLanding.Exchange

variable {R : Type} [JavaFloat R]

theorem ordena_perm (ls : List (Licitacao R)) : (ordena ls).Perm ls :=
  List.perm_insertionSort naoDepois ls

omit [JavaFloat R] in
theorem alocados_isPrefix (m : Int32) (sum : Int32) (ls : List (Licitacao R)) :
    alocados m sum ls <+: ls := by
  induction ls generalizing sum with
  | nil => exact List.prefix_refl _
  | cons l ls ih =>
      simp only [alocados]
      split
      · exact List.prefix_append [l] ls
      · exact (List.prefix_cons_inj l).2 (ih _)

theorem Leilao.mem_of_mem_alocadas {leilao : Leilao R} {l : Licitacao R}
    (h : l ∈ leilao.alocadas) : l ∈ leilao.licitacoes :=
  (ordena_perm _).mem_iff.1 ((alocados_isPrefix _ _ _).subset h)

theorem Leilao.termina_finito {leilao : Leilao R} (c : String) (idL : Int)
    (h : ∀ l ∈ leilao.licitacoes, JavaFloat.isFinite l.taxa = true) :
    (leilao.termina c idL).2.finito = true := by
  rcases leilao.termina_cases c idL with ⟨_, ht⟩ | ⟨_, _, ht⟩ | ⟨_, _, ht⟩ <;> rw [ht]
  · exact RestRequest.finito_desfecho c idL false false
  · exact RestRequest.finito_desfecho c idL false true
  · have finite : ∀ l ∈ leilao.alocadas, JavaFloat.isFinite l.taxa = true :=
      fun l hl => h l (leilao.mem_of_mem_alocadas hl)
    simpa [RestRequest.finito, RestRequest.alocacao, JavaFloat.isFinite_zero] using finite

instance : Std.Total (naoDepois (R := R)) := ⟨fun a b => JavaFloat.compare_total a.taxa b.taxa⟩

instance : IsTrans (Licitacao R) naoDepois :=
  ⟨fun a b c => JavaFloat.compare_trans a.taxa b.taxa c.taxa⟩

theorem ordena_pairwise (ls : List (Licitacao R)) : (ordena ls).Pairwise naoDepois :=
  List.pairwise_insertionSort naoDepois ls

/-- The rate is at least `Float.MIN_VALUE`; for a float that is a number: it is positive. -/
def Positiva (taxa : R) : Prop := JavaFloat.compare JavaFloat.minValue taxa ≠ .gt

instance (taxa : R) : Decidable (Positiva taxa) := inferInstanceAs (Decidable (¬_))

theorem Positiva.mono {a b : Licitacao R} (h : Positiva a.taxa) (hab : naoDepois a b) :
    Positiva b.taxa := JavaFloat.compare_trans _ _ _ h hab

def semJuro (ls : List (Licitacao R)) : List (Licitacao R) :=
  (ordena ls).filter fun l => ¬Positiva l.taxa

omit [JavaFloat R] in
theorem somaQuantias_cons (l : Licitacao R) (ls : List (Licitacao R)) :
    somaQuantias (l :: ls) = l.quantia + somaQuantias ls := by
  unfold somaQuantias
  rw [List.map_cons, List.foldl_cons, Int32.zero_add]
  conv_lhs => rw [← Int32.add_zero l.quantia]
  exact List.foldl_assoc

/-- The loop goes past the bids without a positive rate: none of its sums over them reaches
the amount. -/
def Ultrapassa (montanteTotal sum : Int32) (ls : List (Licitacao R)) : Prop :=
  ∀ p, p ≠ [] → p <+: ls → ¬montanteTotal ≤ sum + somaQuantias p

omit [JavaFloat R] in
theorem ultrapassa_cons {m sum : Int32} {l : Licitacao R} {ls : List (Licitacao R)} :
    Ultrapassa m sum (l :: ls) ↔
      ¬m ≤ sum + l.quantia ∧ Ultrapassa m (sum + l.quantia) ls := by
  refine ⟨?_, ?_⟩
  · intro h
    refine ⟨?_, ?_⟩
    · simpa [somaQuantias] using h [l] (by simp) (by simp)
    · intro p _ hp
      have longer := h (l :: p) (by simp) ((List.prefix_cons_inj l).2 hp)
      rwa [somaQuantias_cons, ← Int32.add_assoc] at longer
  · rintro ⟨first, rest⟩ p some_bid hp
    cases p with
    | nil => exact absurd rfl some_bid
    | cons x p =>
        obtain ⟨rfl, tail⟩ := List.cons_prefix_cons.1 hp
        rw [somaQuantias_cons, ← Int32.add_assoc]
        by_cases none_left : p = []
        · simpa [none_left, somaQuantias] using first
        · exact rest p none_left tail

theorem alocados_positiva (m : Int32) {ls : List (Licitacao R)} (sorted : ls.Pairwise naoDepois)
    (sum : Int32) :
    (∃ l ∈ alocados m sum ls, Positiva l.taxa) ↔
      (∃ l ∈ ls, Positiva l.taxa) ∧
        Ultrapassa m sum (ls.filter fun l => ¬Positiva l.taxa) := by
  induction ls generalizing sum with
  | nil => simp [alocados]
  | cons x xs ih =>
      rw [List.pairwise_cons] at sorted
      have rest := ih sorted.2 (sum + x.quantia)
      by_cases here : Positiva x.taxa
      · have all : (x :: xs).filter (fun l => ¬Positiva l.taxa) = [] := by
          rw [List.filter_eq_nil_iff]
          intro l hl
          cases List.mem_cons.1 hl with
          | inl new => simpa [new] using here
          | inr later => simpa using here.mono (sorted.1 l later)
        have taken : x ∈ alocados m sum (x :: xs) := by
          simp only [alocados]
          split <;> simp
        rw [all]
        refine iff_of_true ⟨x, taken, here⟩ ⟨⟨x, by simp, here⟩, ?_⟩
        intro p some_bid hp
        exact absurd (List.prefix_nil.1 hp) some_bid
      · rw [List.filter_cons_of_pos (by simpa using here), ultrapassa_cons]
        by_cases stop : m ≤ sum + x.quantia
        · simp [alocados, stop, here]
        · simp only [alocados, ge_iff_le, stop, if_false, List.exists_mem_cons_iff, here,
            false_or, not_false_eq_true, true_and]
          exact rest

/-- Some bid has a positive rate, and in rate order the bids without one do not reach the
amount on their own. -/
def Leilao.AtingeJuro (leilao : Leilao R) : Prop :=
  (∃ l ∈ leilao.licitacoes, Positiva l.taxa) ∧
    Ultrapassa leilao.montanteTotal 0 (semJuro leilao.licitacoes)

theorem Leilao.alocadas_positiva (leilao : Leilao R) :
    (∃ l ∈ leilao.alocadas, Positiva l.taxa) ↔ leilao.AtingeJuro := by
  rw [alocadas, alocados_positiva _ (ordena_pairwise _), AtingeJuro, semJuro]
  simp only [(ordena_perm leilao.licitacoes).mem_iff]

/-- A successful settlement keeps the allocated bids, possibly in the order of arrival. -/
theorem Leilao.mem_termina {leilao : Leilao R}
    (funded : leilao.montanteTotal ≤ leilao.getInvestimentoTotal) (c : String) (idL : Int)
    (l : Licitacao R) : l ∈ (leilao.termina c idL).1.licitacoes ↔ l ∈ leilao.alocadas := by
  rcases leilao.termina_cases c idL with ⟨failed, _⟩ | ⟨_, all, ht⟩ | ⟨_, _, ht⟩
  · exact absurd funded failed
  · have whole : leilao.alocadas = ordena leilao.licitacoes :=
      (alocados_isPrefix _ _ _).eq_of_length (all.symm.trans (ordena_perm _).length_eq.symm)
    rw [ht, whole, (ordena_perm _).mem_iff]
  · rw [ht]

def Leilao.MaiorTaxa (leilao : Leilao R) (taxa : R) : Prop :=
  ∃ l ∈ leilao.licitacoes, l.taxa = taxa ∧ ∀ outra ∈ leilao.licitacoes, naoDepois outra l

/-- `getTaxaLicitacaoMaxima` is a bid's rate when a bid reaches the identity of its reduction. -/
theorem Leilao.maiorTaxa_iff (leilao : Leilao R) :
    leilao.MaiorTaxa leilao.getTaxaLicitacaoMaxima ↔ ∃ l ∈ leilao.licitacoes, Positiva l.taxa := by
  have bound := JavaFloat.le_foldl_max (leilao.licitacoes.map (·.taxa)) JavaFloat.minValue
  refine ⟨?_, ?_⟩
  · rintro ⟨l, hl, same, _⟩
    refine ⟨l, hl, ?_⟩
    rw [same]
    exact bound.1
  · rintro ⟨l, hl, positive⟩
    have taken : ∃ m ∈ leilao.licitacoes, m.taxa = leilao.getTaxaLicitacaoMaxima := by
      cases JavaFloat.foldl_max_mem (leilao.licitacoes.map (·.taxa)) JavaFloat.minValue with
      | inr found => exact List.mem_map.1 found
      | inl identity =>
          have below := bound.2 l.taxa (List.mem_map_of_mem hl)
          rw [identity] at below
          refine ⟨l, hl, ?_⟩
          rw [Leilao.getTaxaLicitacaoMaxima, identity]
          exact JavaFloat.compare_antisymm _ _ below positive
    obtain ⟨m, hm, same⟩ := taken
    refine ⟨m, hm, same, ?_⟩
    intro outra ho
    have below := bound.2 outra.taxa (List.mem_map_of_mem ho)
    rw [naoDepois, same]
    exact below

end PeerLanding.Exchange
