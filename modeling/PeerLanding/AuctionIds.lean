import PeerLanding.AuctionSteps

/-! The numbers of a company's auctions over a run. A run is orderly for a company when `leilao`
reads the size of its history with no auction between `leiloes` and the history, and reports an
auction before its settlement thread does. -/

namespace PeerLanding.Threads

open Exchange

section Ordeira

variable {R : Type} [JavaFloat R]

/-- `leilao` is about to read the size of the company's history. -/
def Ponto.aNumerar (c : String) : Ponto R → Bool
  | .leilao empresa _ _ (.historico _) => empresa = c
  | _ => false

/-- The rate and the auction that `leilao` is about to report to the Directory. -/
def Ponto.aReportar (c : String) : Ponto R → Option (R × Nat)
  | .leilao empresa _ juro (.post objeto _) => if empresa = c then some (juro, objeto) else none
  | _ => none

def EmTerminaLeilao.reporta : EmTerminaLeilao R → Bool
  | .put _ => true
  | _ => false

def Fase.emJanela : Fase → Bool
  | .janela _ => true
  | _ => false

/-- A settlement thread of the company has an auction that it has not added to the history. -/
def Memoria.temJanela (c : String) (m : Memoria R) : Bool :=
  (List.range m.novaRef).any fun ref => (m.fios c ref).any (·.2.emJanela)

/-- `leilao` numbers an auction of the company while none is between `leiloes` and the history,
and reports it with a rate that Gson accepts; a settlement thread reports an auction that `leilao`
is not about to report. -/
def Memoria.Ordeira (c : String) (m : Memoria R) : Passo R → Prop
  | .exchange _ _ =>
      (m.exchange.aNumerar c = true → m.temJanela c = false) ∧
        ∀ x ∈ m.exchange.aReportar c, JavaFloat.isFinite x.1 = true
  | .terminaLeilao ref =>
      ∀ fio ∈ m.terminaLeiloes ref, fio.em.reporta = true →
        ∀ x ∈ m.exchange.aReportar c, x.2 ≠ ref
  | _ => True

instance (c : String) (m : Memoria R) (l : Passo R) : Decidable (m.Ordeira c l) :=
  match l with
  | .exchange _ _ => inferInstanceAs (Decidable ((_ → _) ∧ ∀ x ∈ m.exchange.aReportar c, _))
  | .terminaLeilao ref => inferInstanceAs (Decidable (∀ fio ∈ m.terminaLeiloes ref, _ → _))
  | .recv _ => inferInstanceAs (Decidable True)
  | .terminaEmissao _ => inferInstanceAs (Decidable True)

end Ordeira

variable {R : Type} [JavaFloat R] [Gson R] {c : String} {m m' : Memoria R}
  {nomes registadas : List String} {t : List (Lance R)}

/-- The auctions whose settlement threads were started. -/
def iniciados (c : String) (t : List (Lance R)) : List Nat := t.filterMap (Lance.iniciou c)

def publicados (c : String) (t : List (Lance R)) : List Nat := t.filterMap (Lance.publicou c)

def aceites (c : String) (t : List (Lance R)) : List Nat := t.filterMap (Lance.aceitou c)

section Conta

omit [Gson R] in
theorem Memoria.Ordeira.finita {agora agoraDiretorio : LocalDateTime}
    (h : m.Ordeira c (.exchange agora agoraDiretorio)) : m.Finita c := by
  intro quantia juro leilao idL at'
  refine h.2 (juro, leilao) ?_
  rw [at']
  exact if_pos rfl

omit [JavaFloat R] [Gson R] in
theorem aNumerar_of_curso {ponto : Ponto R} {leilao : Nat}
    (at' : ponto.curso c = .em (.historico leilao)) : ponto.aNumerar c = true := by
  unfold Ponto.curso at at'
  split at at'
  · split_ifs at at' with mine
    cases at'
    exact decide_eq_true mine
  · split_ifs at at'
  · cases at'

omit [JavaFloat R] [Gson R] in
theorem aReportar_of_curso {ponto : Ponto R} {leilao idL : Nat}
    (at' : ponto.curso c = .em (.post leilao idL)) :
    ∃ juro, ponto.aReportar c = some (juro, leilao) := by
  unfold Ponto.curso at at'
  split at at'
  · next empresa quantia juro em =>
      split_ifs at at' with mine
      cases at'
      exact ⟨juro, if_pos mine⟩
  · split_ifs at at'
  · cases at'

omit [Gson R] in
theorem Memoria.Ordeira.semJanela {agora agoraDiretorio : LocalDateTime} {leilao : Nat}
    (h : m.Ordeira c (.exchange agora agoraDiretorio)) (fresca : m.Fresca)
    (at' : (m.visao c).curso = .em (.historico leilao)) : (m.visao c).SemJanela := by
  intro ref idL outro found
  change m.fios c ref = _ at found
  have started : m.terminaLeiloes ref ≠ none := by
    intro none_yet
    simp [Memoria.fios, none_yet] at found
  have vazia := h.1 (aNumerar_of_curso at')
  rw [Memoria.temJanela, List.any_eq_false] at vazia
  refine vazia ref (List.mem_range.2 (fresca.fios ref started)) ?_
  rw [found]
  rfl

end Conta

/-! ### Orderly runs -/

structure Ordenada (c : String) (registadas : List String) (t : List (Lance R)) (m : Memoria R) :
    Prop where
  fresca : m.Fresca
  dados : m.Dados
  hospeda : (m.empresas c).isSome
  registada : (m.registos c).isSome = decide (c ∈ registadas)
  ordem : Ordem (iniciados c t) (publicados c t) (aceites c t) (m.visao c)

omit [Gson R] in
theorem ordenada_inicial (hosted : c ∈ nomes) :
    Ordenada (R := R) c registadas [] (.inicial nomes registadas) where
  fresca := ⟨fun _ some_fio => absurd rfl some_fio, fun _ _ here => by cases here⟩
  dados := fun _ _ _ _ found => by cases found
  hospeda := by simp [Memoria.inicial, hosted]
  registada := by
    simp only [Memoria.registos, Memoria.inicial, Directory.vazio]
    split <;> simp [*]
  ordem := by
    have livre : Visao.Situacao ((Memoria.inicial (R := R) nomes registadas).visao c)
        ((Memoria.inicial (R := R) nomes registadas).historico c) :=
      .livre (fun _ _ _ found => by cases found) rfl fun _ _ at' => by cases at'
    rw [show (Memoria.inicial (R := R) nomes registadas).historico c = [] by
      simp [Memoria.historico, Memoria.inicial, hosted]] at livre
    refine ⟨fun _ _ _ found => (by cases found), ?_, ⟨rfl, rfl⟩, livre⟩
    simp only [Memoria.visao, Memoria.registos, Memoria.inicial, Directory.vazio]
    split <;> rfl

theorem Memoria.Move.conta {l : Passo R} {r : Option Resultado} (h : m.Move l r m')
    {leilao outro idL : Nat} (before : (m.visao c).curso = .em (.historico leilao))
    (after : (m'.visao c).curso = .em (.thread outro idL)) :
    ∃ agora agoraDiretorio, l = .exchange agora agoraDiretorio := by
  cases h with
  | recv at' =>
      simp only [Memoria.visao, at'] at before
      cases before
  | terminaLeilao at' corre op =>
      have same := congrArg (Ponto.curso c) (terminaLeilao_threads op).2.1
      cases (before.symm.trans same.symm).trans after
  | falhaTerminaLeilao at' corre op => cases before.symm.trans after
  | terminaEmissao at' corre op =>
      have same := congrArg (Ponto.curso c) (terminaEmissao_poupa op).2
      cases (before.symm.trans same.symm).trans after
  | falhaTerminaEmissao at' corre op => cases before.symm.trans after
  | _ => exact ⟨_, _, rfl⟩

theorem ordenada_passa {l : Passo R} {r : Option Resultado} (h : Ordenada c registadas t m)
    (step : m.Passa l r m') (ordeira : m.Ordeira c l) :
    Ordenada c registadas (t ++ [⟨m, l, r, m'⟩]) m' := by
  have move := step.move
  have finita (agora agoraDiretorio : LocalDateTime) (here : l = .exchange agora agoraDiretorio) :
      m.Finita c := by
    subst here
    exact ordeira.finita
  have muda := move.muda h.fresca h.hospeda finita
  have conta (leilao idL : Nat) (before : (m.visao c).curso = .em (.historico leilao))
      (after : (m'.visao c).curso = .em (.thread leilao idL)) : (m.visao c).SemJanela := by
    obtain ⟨agora, agoraDiretorio, rfl⟩ := move.conta before after
    exact ordeira.semJanela h.fresca before
  refine ⟨move.fresca h.fresca, move.dados h.dados, ?_, ?_, ?_⟩
  · rw [move.hospeda]
    exact h.hospeda
  · exact muda.registada.trans h.registada
  · simpa only [iniciados, publicados, aceites, Runs.filterMap_concat]
      using h.ordem.muda muda conta

theorem ordenada_of_run (hosted : c ∈ nomes) (run : Run nomes registadas t m)
    (ordeira : ∀ e ∈ t, e.pre.Ordeira c e.label) : Ordenada c registadas t m :=
  run.invariant_of_guard (Ordenada c registadas) (fun e => e.pre.Ordeira c e.label) ordeira
    (ordenada_inicial hosted) fun _ _ _ _ _ _ h step guard => ordenada_passa h step guard

theorem Ordem.registo {iniciados publicados aceites : List Nat} {v : Visao}
    (h : Ordem iniciados publicados aceites v) {ref idL : Nat} {fase : Fase}
    (fio : v.fios ref = some (idL, fase))
    (reportado : ∀ n, v.curso ≠ .em (.post ref n)) : publicados[idL]? = some ref := by
  have found := h.ids ref idL fase fio
  have publicacao := h.publicacao
  unfold Publicacao at publicacao
  split at publicacao
  · next leilao n at' =>
      rw [publicacao.1] at found
      by_cases old : idL < publicados.length
      · rwa [List.getElem?_append_left old] at found
      · rw [List.getElem?_append_right (Nat.le_of_not_lt old)] at found
        obtain ⟨_, same⟩ := List.getElem?_eq_some_iff.1 found
        rw [List.getElem_singleton] at same
        exact absurd at' (same ▸ reportado n)
  · exact publicacao.1 ▸ found
  · exact publicacao.1 ▸ found

theorem Ordem.nodup {iniciados publicados aceites : List Nat} {v : Visao}
    (h : Ordem iniciados publicados aceites v) : aceites.Nodup := by
  have publicacao := h.publicacao
  unfold Publicacao at publicacao
  split at publicacao
  · exact publicacao.2.2 ▸ List.nodup_range
  · exact publicacao.2.2 ▸ List.nodup_range
  · exact publicacao.2 ▸ List.nodup_range

theorem Ordem.liquida {iniciados publicados aceites : List Nat} {v : Visao}
    (h : Ordem iniciados publicados aceites v) {ref idL leilao : Nat}
    (fio : v.fios ref = some (idL, .janela leilao)) : leilao = ref := by
  cases h.situacao with
  | livre pendente _ _ => cases pendente.espera fio (by simp)
  | esperando pendente _ _ _ => cases pendente.espera fio (by simp)
  | janela pendente _ _ _ =>
      cases pendente.espera fio (by simp)
      rfl

/-- In an orderly run accepted auctions have different numbers, the records of the Directory are
numbered from zero, a settlement thread settles the auction it was started for, and it reports
to the record of that auction. -/
theorem auctionIds (hosted : c ∈ nomes) (run : Run nomes registadas t m)
    (ordeira : ∀ e ∈ t, e.pre.Ordeira c e.label) :
    (aceites c t).Nodup ∧
      ∀ u e, u ++ [e] <+: t →
        (c ∈ registadas →
          e.pre.registos c = some ((List.range (publicados c u).length).map (↑))) ∧
        ∀ ref, e.label = .terminaLeilao ref →
          (∀ idL leilao, e.pre.fios c ref = some (idL, .janela leilao) → leilao = ref) ∧
          ∀ (idL : Nat) (data : Directory.RestRequest R),
            e.pre.terminaLeiloes ref = some ⟨c, idL, .put data⟩ →
            data.nome = some c ∧ data.id = idL ∧ (publicados c u)[idL]? = some ref := by
  refine ⟨(ordenada_of_run hosted run ordeira).ordem.nodup, ?_⟩
  intro u e recorded
  have inside {x : Lance R} (here : x ∈ u ++ [e]) : x ∈ t := recorded.subset here
  have before := ordenada_of_run hosted (run.of_concat recorded).1 fun x here =>
    ordeira x (inside (List.mem_append_left _ here))
  refine ⟨?_, ?_⟩
  · intro registered
    have some_ids := before.registada
    rw [decide_eq_true registered, Option.isSome_iff_exists] at some_ids
    obtain ⟨ids, found⟩ := some_ids
    have numbered := before.ordem.registos
    rw [show (e.pre.visao c).registos = some ids from found, Option.map_some] at numbered
    exact found.trans numbered
  · intro ref label
    refine ⟨fun idL leilao fio => before.ordem.liquida fio, ?_⟩
    intro idL data at'
    obtain ⟨nome, id⟩ := before.dados ref c idL data at'
    refine ⟨nome, id, before.ordem.registo (fios_eq at') ?_⟩
    intro n reports
    have careful := ordeira e (inside (List.mem_append_right _ (List.mem_singleton_self e)))
    rw [label] at careful
    obtain ⟨juro, reported⟩ := aReportar_of_curso reports
    exact careful _ at' rfl (juro, ref) reported rfl

/-- The second auction is accepted between `leiloes.remove` and `historicoLeiloes.add`. -/
def doisLeiloes : List (Passo Binary32) := umLeilao ++ .terminaLeilao 0 :: umLeilao

theorem doisLeiloes_taken :
    (Memoria.corrida ["CanecaLda"] Directory.nomes doisLeiloes).isSome := by decide +kernel

theorem auctionIds_again :
    ∃ (t : List (Lance Binary32)) (m : Memoria Binary32),
      Run ["CanecaLda"] Directory.nomes t m ∧ ¬(aceites "CanecaLda" t).Nodup :=
  ⟨_, _, Memoria.run_corrida doisLeiloes_taken, by decide +kernel⟩

def umDepoisDoOutro : List (Passo Binary32) :=
  umLeilao ++ List.replicate 6 (.terminaLeilao 0) ++ umLeilao

theorem umDepoisDoOutro_taken :
    (Memoria.corrida ["CanecaLda"] Directory.nomes umDepoisDoOutro).isSome := by decide +kernel

theorem auctionIds_settled :
    ∃ (t : List (Lance Binary32)) (m : Memoria Binary32),
      Run ["CanecaLda"] Directory.nomes t m ∧ aceites "CanecaLda" t = [0, 1] ∧
        (aceites "CanecaLda" t).Nodup := by
  have run := Memoria.run_corrida umDepoisDoOutro_taken
  have ordeira : ∀ e ∈ ((Memoria.corrida ["CanecaLda"] Directory.nomes umDepoisDoOutro).get
      umDepoisDoOutro_taken).1, e.pre.Ordeira "CanecaLda" e.label := by decide +kernel
  exact ⟨_, _, run, by decide +kernel, (auctionIds (by decide) run ordeira).1⟩

end PeerLanding.Threads
