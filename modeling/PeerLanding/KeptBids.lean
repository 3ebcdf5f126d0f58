import Mathlib.Data.List.Perm.Basic
import PeerLanding.Exchange.Allocation
import PeerLanding.StableOrder

/-! Which bids an auction keeps when it is settled. They are taken by rate, those of one rate in
the order of arrival, until the amount is reached. -/

namespace PeerLanding

open StableOrder

variable {R : Type} [JavaFloat R]

namespace Exchange

section Ordem

variable [DecidableEq R]

/-- The bids of every rate are the same in both lists, in the same order. -/
def MesmosEmpates (ls ls' : List (Licitacao R)) : Prop :=
  ∀ taxa, (ls.filter fun l => l.taxa = taxa) = ls'.filter fun l => l.taxa = taxa

/-- `ordem` has the bids of `ls` by rate, and those of one rate in the order of arrival. -/
structure PorTaxa (ls ordem : List (Licitacao R)) : Prop where
  cresce : ordem.Pairwise naoDepois
  empates : MesmosEmpates ls ordem

omit [DecidableEq R] in
theorem tied_iff {a b : Licitacao R} : Tied naoDepois a b ↔ b.taxa = a.taxa := by
  refine ⟨?_, ?_⟩
  · intro tie
    exact JavaFloat.compare_antisymm _ _ tie.2 tie.1
  · intro same
    have refl : naoDepois a a := (tied_self a).1
    rw [Tied, naoDepois, naoDepois, same]
    exact ⟨refl, refl⟩

theorem mesmosEmpates_iff {ls ls' : List (Licitacao R)} :
    MesmosEmpates ls ls' ↔ SameTies naoDepois ls ls' := by
  simp only [SameTies, tied_iff]
  refine ⟨fun h a => h a.taxa, ?_⟩
  intro h taxa
  exact h ⟨"", taxa, 0⟩

theorem porTaxa_ordena (ls : List (Licitacao R)) : PorTaxa ls (ordena ls) where
  cresce := ordena_pairwise ls
  empates := mesmosEmpates_iff.2 (sameTies_insertionSort ls).symm

theorem PorTaxa.eq_ordena {ls ordem : List (Licitacao R)} (h : PorTaxa ls ordem) :
    ordem = ordena ls := by
  have ties := mesmosEmpates_iff.1 h.empates
  exact (ties.symm.trans (sameTies_insertionSort ls).symm).eq_of_pairwise h.cresce
    (ordena_pairwise ls)

end Ordem

/-- `p` is the shortest beginning of `ordem`, other than the empty one, that reaches the amount. -/
structure Alcanca (montanteTotal : Int32) (ordem p : List (Licitacao R)) : Prop where
  alguma : p ≠ []
  inicio : p <+: ordem
  chega : montanteTotal ≤ somaQuantias p
  menor : ∀ q, q ≠ [] → q <+: ordem → montanteTotal ≤ somaQuantias q → p.length ≤ q.length

omit [JavaFloat R] in
theorem somaQuantias_perm {ls ls' : List (Licitacao R)} (h : ls.Perm ls') :
    somaQuantias ls = somaQuantias ls' :=
  (h.map _).foldl_op_eq

omit [JavaFloat R] in
/-- The loop stops with the first of its sums that reaches the amount. -/
theorem alocados_chega {m sum : Int32} {ls : List (Licitacao R)} (some_bid : ls ≠ [])
    (enough : m ≤ sum + somaQuantias ls) :
    alocados m sum ls ≠ [] ∧ m ≤ sum + somaQuantias (alocados m sum ls) ∧
      ∀ q, q ≠ [] → q <+: ls → m ≤ sum + somaQuantias q →
        (alocados m sum ls).length ≤ q.length := by
  induction ls generalizing sum with
  | nil => exact absurd rfl some_bid
  | cons l ls ih =>
      rw [somaQuantias_cons, ← Int32.add_assoc] at enough
      by_cases stop : m ≤ sum + l.quantia
      · have taken : alocados m sum (l :: ls) = [l] := if_pos stop
        rw [taken]
        refine ⟨List.cons_ne_nil l [], ?_, ?_⟩
        · simpa [somaQuantias] using stop
        · intro q some_q _ _
          exact List.length_pos_iff.2 some_q
      · have taken : alocados m sum (l :: ls) = l :: alocados m (sum + l.quantia) ls :=
          if_neg stop
        have more : ls ≠ [] := by
          rintro rfl
          exact stop (by simpa [somaQuantias] using enough)
        obtain ⟨_, reached, least⟩ := ih more enough
        rw [taken]
        refine ⟨List.cons_ne_nil _ _, ?_, ?_⟩
        · rwa [somaQuantias_cons, ← Int32.add_assoc]
        · intro q some_q begins reaches
          cases q with
          | nil => exact absurd rfl some_q
          | cons x q =>
              obtain ⟨rfl, tail⟩ := List.cons_prefix_cons.1 begins
              rw [somaQuantias_cons, ← Int32.add_assoc] at reaches
              have rest : q ≠ [] := by
                rintro rfl
                exact stop (by simpa [somaQuantias] using reaches)
              exact Nat.succ_le_succ (least q rest tail reaches)

variable {leilao : Leilao R}

theorem Leilao.alcanca_alocadas (some_bid : leilao.licitacoes ≠ [])
    (funded : leilao.montanteTotal ≤ leilao.getInvestimentoTotal) :
    Alcanca leilao.montanteTotal (ordena leilao.licitacoes) leilao.alocadas := by
  have sorted := ordena_perm leilao.licitacoes
  have some_sorted : ordena leilao.licitacoes ≠ [] := fun none =>
    some_bid (none ▸ sorted).nil_eq.symm
  rw [getInvestimentoTotal, ← somaQuantias_perm sorted] at funded
  have loop := @alocados_chega R leilao.montanteTotal 0 _ some_sorted (by rwa [Int32.zero_add])
  simp only [Int32.zero_add] at loop
  exact ⟨loop.1, alocados_isPrefix _ _ _, loop.2.1, loop.2.2⟩

theorem Leilao.length_alocadas :
    leilao.licitacoes.length = leilao.alocadas.length ↔
      leilao.alocadas = ordena leilao.licitacoes := by
  rw [← (ordena_perm leilao.licitacoes).length_eq]
  refine ⟨?_, fun all => by rw [all]⟩
  intro same
  exact (alocados_isPrefix _ _ _).eq_of_length same.symm

theorem Leilao.alocaInvestidores_todos (all : leilao.alocadas = ordena leilao.licitacoes) :
    leilao.alocaInvestidores = (false, leilao) := if_pos (length_alocadas.2 all)

theorem Leilao.alocaInvestidores_parte (part : leilao.alocadas ≠ ordena leilao.licitacoes) :
    leilao.alocaInvestidores = (true, { leilao with licitacoes := leilao.alocadas }) :=
  if_neg fun same => part (length_alocadas.1 same)

end Exchange

open Exchange

/-- `alocaInvestidores` keeps the shortest beginning of the bids by rate that reaches the amount.
It returns true when some bid is left out, and then has no worse rate than those left out. -/
theorem allocation [DecidableEq R] {leilao : Leilao R} {ordem : List (Licitacao R)}
    (some_bid : leilao.licitacoes ≠ [])
    (funded : leilao.montanteTotal ≤ leilao.getInvestimentoTotal)
    (sorted : PorTaxa leilao.licitacoes ordem) :
    ∃ p, Alcanca leilao.montanteTotal ordem p ∧
      (leilao.alocaInvestidores.1 = true ↔ p ≠ ordem) ∧
      (leilao.alocaInvestidores.1 = true →
        leilao.alocaInvestidores.2 = { leilao with licitacoes := p }) ∧
      (leilao.alocaInvestidores.1 = false →
        leilao.alocaInvestidores.2 = leilao ∧ leilao.licitacoes.Perm p) ∧
      ∃ fora, (leilao.alocaInvestidores.2.licitacoes ++ fora).Perm leilao.licitacoes ∧
        leilao.montanteTotal ≤ somaQuantias leilao.alocaInvestidores.2.licitacoes ∧
        ∀ l ∈ leilao.alocaInvestidores.2.licitacoes, ∀ f ∈ fora, naoDepois l f := by
  obtain rfl := sorted.eq_ordena
  have shortest := Leilao.alcanca_alocadas some_bid funded
  refine ⟨leilao.alocadas, shortest, ?_⟩
  by_cases all : leilao.alocadas = ordena leilao.licitacoes
  · rw [Leilao.alocaInvestidores_todos all]
    refine ⟨by simp [all], by simp, ?_, [], by simp, funded, by simp⟩
    intro _
    exact ⟨rfl, all ▸ (ordena_perm _).symm⟩
  · rw [Leilao.alocaInvestidores_parte all]
    refine ⟨by simp [all], fun _ => rfl, by simp, ?_⟩
    obtain ⟨fora, whole⟩ := shortest.inicio
    have below := sorted.cresce
    rw [← whole, List.pairwise_append] at below
    exact ⟨fora, whole ▸ ordena_perm _, shortest.chega, below.2.2⟩

def threeBids : Leilao Binary32 where
  ref := 0
  taxaMaxima := .intBitsToFloat 0x3DCCCCCD
  montanteTotal := 1000
  empresa := "CanecaLda"
  data := .atNano 1
  sucesso := false
  licitacoes := [⟨"ana", .intBitsToFloat 0x3D4CCCCD, 600⟩,
    ⟨"rui", .intBitsToFloat 0x3D23D70A, 500⟩, ⟨"eva", .intBitsToFloat 0x3D23D70A, 700⟩]

theorem allocation_threeBids : ∃ p, Alcanca 1000 (ordena threeBids.licitacoes) p ∧
    threeBids.alocaInvestidores.2.licitacoes = p ∧ p.map (·.investidor) = ["rui", "eva"] := by
  have returns : threeBids.alocaInvestidores.1 = true := by decide +kernel
  obtain ⟨p, shortest, _, kept, _⟩ :=
    @allocation _ _ _ threeBids _ (by decide) (by decide) (porTaxa_ordena _)
  refine ⟨p, shortest, by rw [kept returns], ?_⟩
  have names : threeBids.alocaInvestidores.2.licitacoes.map (·.investidor) = ["rui", "eva"] := by
    decide +kernel
  rwa [kept returns] at names

/-! ### The order of arrival -/

namespace Exchange

abbrev Leilao.comLicitacoes (leilao : Leilao R) (ls : List (Licitacao R)) : Leilao R :=
  { leilao with licitacoes := ls }

variable {leilao : Leilao R} {ls : List (Licitacao R)}

theorem Leilao.alocadas_congr (same : ordena ls = ordena leilao.licitacoes) :
    (leilao.comLicitacoes ls).alocadas = leilao.alocadas :=
  congrArg (alocados leilao.montanteTotal 0) same

theorem Leilao.getTaxaLicitacaoMaxima_perm (h : ls.Perm leilao.licitacoes) :
    (leilao.comLicitacoes ls).getTaxaLicitacaoMaxima = leilao.getTaxaLicitacaoMaxima :=
  JavaFloat.foldl_max_congr (fun _ => (h.map (·.taxa)).mem_iff) _

omit [JavaFloat R] in
theorem Leilao.getInvestimentoTotal_perm (h : ls.Perm leilao.licitacoes) :
    (leilao.comLicitacoes ls).getInvestimentoTotal = leilao.getInvestimentoTotal :=
  somaQuantias_perm h

variable (c : String) (idL : Int)

theorem Leilao.termina_todos (funded : leilao.montanteTotal ≤ leilao.getInvestimentoTotal)
    (all : leilao.alocadas = ordena leilao.licitacoes) :
    leilao.termina c idL =
      ({ leilao with sucesso := true }, RestRequest.desfecho c idL false true) := by
  rcases leilao.termina_cases c idL with ⟨failed, _⟩ | ⟨_, _, ht⟩ | ⟨_, part, _⟩
  · exact absurd funded failed
  · exact ht
  · exact absurd (length_alocadas.2 all) part

theorem Leilao.termina_parte (funded : leilao.montanteTotal ≤ leilao.getInvestimentoTotal)
    (part : leilao.alocadas ≠ ordena leilao.licitacoes) :
    leilao.termina c idL =
      ({ leilao with sucesso := true, licitacoes := leilao.alocadas },
        RestRequest.alocacao c idL false true leilao.alocadas) := by
  rcases leilao.termina_cases c idL with ⟨failed, _⟩ | ⟨_, all, _⟩ | ⟨_, _, ht⟩
  · exact absurd funded failed
  · exact absurd (length_alocadas.1 all) part
  · exact ht

/-- Bids that come in another order are settled alike if they are taken in the same one. -/
theorem Leilao.termina_perm (h : ls.Perm leilao.licitacoes)
    (same : ordena ls = ordena leilao.licitacoes) :
    ((leilao.comLicitacoes ls).termina c idL).2 = (leilao.termina c idL).2 ∧
      ((leilao.comLicitacoes ls).termina c idL).1.sucesso = (leilao.termina c idL).1.sucesso ∧
      ((leilao.comLicitacoes ls).termina c idL).1.licitacoes.Perm
        (leilao.termina c idL).1.licitacoes := by
  have taken := alocadas_congr same
  have total := getInvestimentoTotal_perm h
  by_cases funded : leilao.montanteTotal ≤ leilao.getInvestimentoTotal
  · by_cases all : leilao.alocadas = ordena leilao.licitacoes
    · rw [termina_todos c idL funded all, termina_todos c idL (total ▸ funded)
        (taken.trans (all.trans same.symm))]
      exact ⟨rfl, rfl, h⟩
    · rw [termina_parte c idL funded all, termina_parte c idL (total ▸ funded)
        fun all' => all (taken.symm.trans (all'.trans same)), taken]
      exact ⟨rfl, rfl, .refl _⟩
  · rw [termina, termina, if_neg funded, if_neg (total ▸ funded)]
    exact ⟨rfl, rfl, h⟩

end Exchange

/-- The order of arrival counts among bids of one rate and nowhere else. The bids of every rate
that are kept are the first of that rate. -/
theorem arrivalOrder [DecidableEq R] {leilao : Leilao R} {ls : List (Licitacao R)}
    (ties : MesmosEmpates leilao.licitacoes ls) (c : String) (idL : Int) :
    ((leilao.comLicitacoes ls).termina c idL).1.sucesso = (leilao.termina c idL).1.sucesso ∧
      (leilao.comLicitacoes ls).alocaInvestidores.1 = leilao.alocaInvestidores.1 ∧
      (leilao.alocaInvestidores.1 = true →
        (leilao.comLicitacoes ls).alocaInvestidores.2.licitacoes =
          leilao.alocaInvestidores.2.licitacoes) ∧
      (leilao.alocaInvestidores.1 = false →
        (leilao.comLicitacoes ls).alocaInvestidores.2.licitacoes.Perm
          leilao.alocaInvestidores.2.licitacoes) ∧
      (leilao.comLicitacoes ls).alocaInvestidores.2.getTaxaLicitacaoMaxima =
        leilao.alocaInvestidores.2.getTaxaLicitacaoMaxima ∧
      ((leilao.comLicitacoes ls).termina c idL).1.getTaxaLicitacaoMaxima =
        (leilao.termina c idL).1.getTaxaLicitacaoMaxima ∧
      ∀ taxa, (leilao.alocaInvestidores.2.licitacoes.filter fun l => l.taxa = taxa) <+:
        leilao.licitacoes.filter fun l => l.taxa = taxa := by
  have tied := mesmosEmpates_iff.1 ties
  have h : ls.Perm leilao.licitacoes := tied.perm.symm
  have same : ordena ls = ordena leilao.licitacoes := tied.insertionSort_eq.symm
  have settled := Leilao.termina_perm c idL h same
  have taken := Leilao.alocadas_congr same
  refine ⟨settled.2.1, ?_⟩
  by_cases all : leilao.alocadas = ordena leilao.licitacoes
  · rw [Leilao.alocaInvestidores_todos all,
      Leilao.alocaInvestidores_todos (taken.trans (all.trans same.symm))]
    exact ⟨rfl, by simp, fun _ => h, Leilao.getTaxaLicitacaoMaxima_perm h,
      JavaFloat.foldl_max_congr (fun _ => (settled.2.2.map (·.taxa)).mem_iff) _,
      fun _ => List.prefix_refl _⟩
  · rw [Leilao.alocaInvestidores_parte all,
      Leilao.alocaInvestidores_parte fun all' => all (taken.symm.trans (all'.trans same)), taken]
    refine ⟨rfl, fun _ => rfl, by simp, rfl,
      JavaFloat.foldl_max_congr (fun _ => (settled.2.2.map (·.taxa)).mem_iff) _, ?_⟩
    intro taxa
    rw [(porTaxa_ordena leilao.licitacoes).empates taxa]
    exact (alocados_isPrefix _ _ _).filter _

/-- The first two bids come in the other order. -/
theorem arrivalOrder_threeBids :
    (threeBids.comLicitacoes [⟨"rui", .intBitsToFloat 0x3D23D70A, 500⟩,
      ⟨"ana", .intBitsToFloat 0x3D4CCCCD, 600⟩,
      ⟨"eva", .intBitsToFloat 0x3D23D70A, 700⟩]).alocaInvestidores.2.licitacoes =
      threeBids.alocaInvestidores.2.licitacoes := by
  have ties : MesmosEmpates threeBids.licitacoes
      [⟨"rui", .intBitsToFloat 0x3D23D70A, 500⟩, ⟨"ana", .intBitsToFloat 0x3D4CCCCD, 600⟩,
        ⟨"eva", .intBitsToFloat 0x3D23D70A, 700⟩] := by
    intro taxa
    by_cases low : Binary32.intBitsToFloat 0x3D23D70A = taxa
    · subst low
      decide +kernel
    · simp [threeBids, List.filter_cons, low]
  exact (arrivalOrder ties "CanecaLda" 0).2.2.1 (by decide +kernel)

end PeerLanding
