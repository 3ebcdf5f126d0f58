import PeerLanding.Deliveries
import PeerLanding.Exchange.Allocation
import PeerLanding.StableOrder

/-! The numbers that the exchange gives to the bids it sends. A bid or a loan is posted with its
position in the auction or emission; the bids of an outcome come in rate order, and each of them
still is the bid at its position. A field `id` says nothing of this after an outcome. -/

namespace PeerLanding

open Exchange NumberedLists StableOrder

variable {R : Type} [JavaFloat R] {c : String}

namespace Exchange.Leilao

variable {leilao : Leilao R}

/-- The bids that an allocation keeps, with their positions in the auction. -/
def alocadasNumeradas (leilao : Leilao R) : List (Licitacao R × Nat) :=
  (indexed naoDepois leilao.licitacoes 0).take leilao.alocadas.length

theorem map_fst_alocadasNumeradas (leilao : Leilao R) :
    leilao.alocadasNumeradas.map Prod.fst = leilao.alocadas := by
  rw [alocadasNumeradas, List.map_take, map_fst_indexed]
  exact (List.prefix_iff_eq_take.1 (alocados_isPrefix _ _ _)).symm

theorem licitacao_of_alocada {l : Licitacao R} {i : Nat} (h : (l, i) ∈ leilao.alocadasNumeradas) :
    leilao.licitacoes[i]? = some l :=
  mem_indexed (List.mem_of_mem_take h)

/-- The bids kept are the auction's first bids when they lead it in their order. -/
theorem map_snd_alocadasNumeradas (first : leilao.alocadas <+: leilao.licitacoes) :
    leilao.alocadasNumeradas.map Prod.snd = List.range leilao.alocadas.length := by
  rw [List.range_eq_range']
  exact map_snd_indexed_take 0 first (alocados_isPrefix _ _ _)

end Exchange.Leilao

/-! ### What has been delivered, with its numbers -/

namespace Directory

/-- The bids and loans delivered for each record of a company, with the numbers that the exchange
gave them. -/
@[ext] structure Numeradas (R : Type) where
  leiloes : List (List (Licitacao R × Int))
  emissoes : List (List (Licitacao R × Int))

/-- The bids of an outcome, at the Directory and with their numbers. -/
def mantidas (leilao : Exchange.Leilao R) : List (Licitacao R × Int) :=
  leilao.alocadasNumeradas.map fun p => (⟨0, some p.1.investidor, p.1.taxa, p.1.quantia⟩, p.2)

/-- What an update adds; the bids of an outcome are those of the open auction. -/
def Numeradas.recebe (m : Numeradas R) (aberto : Option (Exchange.Leilao R)) :
    Relato R → Numeradas R
  | .leilao _ _ _ => { m with leiloes := m.leiloes ++ [[]] }
  | .emissao _ _ _ => { m with emissoes := m.emissoes ++ [[]] }
  | .licitacao idL id l =>
      { m with
        leiloes := emPosicao (· ++ [(⟨id, some l.investidor, l.taxa, l.quantia⟩, id)])
          m.leiloes idL }
  | .emprestimo idL id investidor quantia =>
      { m with
        emissoes := emPosicao (· ++ [(⟨id, some investidor, JavaFloat.zero, quantia⟩, id)])
          m.emissoes idL }
  | .terminaLeilao idL _ (some _) =>
      { m with leiloes := emPosicao (fun _ => (aberto.map mantidas).getD []) m.leiloes idL }
  | .terminaLeilao _ _ none => m
  | .terminaEmissao _ _ => m

/-- Without their numbers these are the bids and loans of the record. -/
structure Numeradas.Do (m : Numeradas R) (registo : Empresa R) : Prop where
  leiloes : m.leiloes.map (·.map Prod.fst) = registo.historicoLeiloes.map (·.licitacoes)
  emissoes : m.emissoes.map (·.map Prod.fst) = registo.historicoEmissoes.map (·.licitacoes)

structure Numeradas.NoLugar (m : Numeradas R) : Prop where
  leiloes : ∀ ls ∈ m.leiloes, Numbered Prod.snd ls
  emissoes : ∀ ls ∈ m.emissoes, Numbered Prod.snd ls

end Directory

/-- The bids that come with an outcome are those that the open auction keeps. -/
def Exchange.Relato.Do (aberto : Option (Leilao R)) (u : Relato R) : Prop :=
  ∀ idL sucesso ls, u = .terminaLeilao idL sucesso (some ls) →
    ∃ leilao, aberto = some leilao ∧ ls = leilao.alocadas

theorem Momento.chegada_do {e : Momento R} {u : Relato R} (h : e.chegada c = some u) :
    u.Do e.pre.leilao := by
  rintro idL sucesso ls rfl
  rw [chegada, Option.ite_none_right_eq_some, envio, Option.ite_none_right_eq_some] at h
  obtain ⟨_, _, sent⟩ := h
  split at sent <;> simp only [Option.map_eq_some_iff, Option.some.injEq, reduceCtorEq,
    and_false, exists_false, Relato.terminaLeilao.injEq] at sent
  obtain ⟨leilao, aberto, _, _, kept⟩ := sent
  exact ⟨leilao, aberto, (Leilao.enviadas_eq_some.1 kept).2⟩

/-- The bids delivered about `c`, update by update. -/
def Momento.numera (c : String) (m : Directory.Numeradas R) (e : Momento R) :
    Directory.Numeradas R :=
  match e.chegada c with
  | none => m
  | some u => m.recebe e.pre.leilao u

def numeradas (c : String) (t : List (Momento R)) : Directory.Numeradas R :=
  t.foldl (Momento.numera c) ⟨[], []⟩

@[simp] theorem numeradas_concat (c : String) (t : List (Momento R)) (e : Momento R) :
    numeradas c (t ++ [e]) = e.numera c (numeradas c t) := by
  simp [numeradas]

namespace Directory.Numeradas

variable {m : Numeradas R} {registo : Empresa R} {aberto : Option (Exchange.Leilao R)}
  {u : Relato R} {agora : LocalDateTime}

theorem map_fst_mantidas (leilao : Exchange.Leilao R) : (mantidas leilao).map Prod.fst =
    leilao.alocadas.map fun l => ⟨0, some l.investidor, l.taxa, l.quantia⟩ := by
  rw [← leilao.map_fst_alocadasNumeradas, mantidas, List.map_map, List.map_map]
  rfl

theorem Do.recebe (h : m.Do registo) (fits : u.Do aberto) :
    (m.recebe aberto u).Do (u.lido.fiel agora registo) := by
  obtain ⟨leiloes, emissoes⟩ := h
  cases u with
  | leilao idL taxaMaxima montanteTotal =>
      exact ⟨by simp [Numeradas.recebe, Relato.lido, Relato.fiel, leiloes], emissoes⟩
  | emissao idL taxa montanteTotal =>
      exact ⟨leiloes, by simp [Numeradas.recebe, Relato.lido, Relato.fiel, emissoes]⟩
  | licitacao idL id l =>
      refine ⟨map_emPosicao_eq leiloes ?_, emissoes⟩
      intro x y same
      simp [same]
  | emprestimo idL id investidor quantia =>
      refine ⟨leiloes, map_emPosicao_eq emissoes ?_⟩
      intro x y same
      simp [same]
  | terminaLeilao idL sucesso alocados =>
      cases alocados with
      | none =>
          refine ⟨?_, emissoes⟩
          refine leiloes.trans (map_emPosicao ?_).symm
          exact fun _ => rfl
      | some ls =>
          obtain ⟨leilao, rfl, rfl⟩ := fits _ _ _ rfl
          refine ⟨map_emPosicao_eq leiloes ?_, emissoes⟩
          intro x y _
          exact map_fst_mantidas leilao
  | terminaEmissao idL sucesso =>
      refine ⟨leiloes, ?_⟩
      refine emissoes.trans (map_emPosicao ?_).symm
      exact fun _ => rfl

end Directory.Numeradas

section Corridas

variable [Gson R] {nomes registadas : List String} {t : List (Transicao R)} {s s' : Sistema R}
  {l : Passo R} {r : Resultado}

/-- A step delivers nothing about `c`, or one update, which the record and the numbers follow. -/
theorem Sistema.Run.entrega_cases (h : Sistema.Run nomes registadas t s) (step : s.Passa l r s')
    (c : String) :
    let e : Transicao R := ⟨s, l, r, s'⟩
    (Momento.chegada c (e.map (·.ficha c)) = none ∧ s'.diretorio c = s.diretorio c ∧
      numeradas c (PeerLanding.percurso c (t ++ [e])) =
        numeradas c (PeerLanding.percurso c t)) ∨
    (∃ u, Momento.chegada c (e.map (·.ficha c)) = some u ∧
      s'.diretorio c = (s.diretorio c).map (u.lido.fiel l.agoraDiretorio ·) ∧
      numeradas c (PeerLanding.percurso c (t ++ [e])) =
        (numeradas c (PeerLanding.percurso c t)).recebe (s.ficha c).leilao u) := by
  intro e
  have record : s'.diretorio c = (s.diretorio c).map fun registo =>
      match Momento.chegada c (e.map (·.ficha c)) with
      | none => registo
      | some u => u.lido.fiel l.agoraDiretorio registo := Run.diretorio_eq h step c
  rw [percurso_concat, numeradas_concat, Momento.numera]
  cases sent : Momento.chegada c (e.map (·.ficha c)) with
  | none =>
      refine .inl ⟨rfl, ?_, rfl⟩
      rw [record, sent, Option.map_id']
  | some u =>
      refine .inr ⟨u, rfl, ?_, rfl⟩
      rw [record, sent]

/-- In every run that may lose calls the Directory holds the bids and loans delivered. -/
theorem Sistema.Run.numeradas_do (h : Sistema.Run nomes registadas t s) (c : String) :
    ∀ registo ∈ s.diretorio c, (numeradas c (PeerLanding.percurso c t)).Do registo := by
  refine Runs.Run.invariant
    (fun t s => ∀ registo ∈ s.diretorio c, (numeradas c (PeerLanding.percurso c t)).Do registo)
    h ?_ ?_
  · intro registo hr
    rw [Directory.eq_novo_of_vazio hr]
    exact ⟨rfl, rfl⟩
  · intro t s l r s' run ih step registo hr
    obtain ⟨_, same, told⟩ | ⟨u, sent, changed, told⟩ := Run.entrega_cases run step c
    · rw [told]
      exact ih registo (same ▸ hr)
    · rw [changed, Option.mem_def, Option.map_eq_some_iff] at hr
      obtain ⟨antes, ha, rfl⟩ := hr
      rw [told]
      exact (ih antes ha).recebe (Momento.chegada_do sent)

end Corridas

/-! ### Updates that keep numbers at their positions -/

namespace Exchange.Relato

/-- A bid is appended at the position of its number, and of the open auction an outcome brings the
first bids in their order, or none. -/
def PosicionaLicitacoes (registo : Directory.Empresa R) (aberto : Option (Leilao R)) :
    Relato R → Prop
  | .licitacao idL id _ => ∀ leilao, Java.get registo.historicoLeiloes idL = .ok leilao →
      id = leilao.licitacoes.length
  | .terminaLeilao idL _ (some ls) => ∀ leilao, Java.get registo.historicoLeiloes idL = .ok leilao →
      ∀ origem ∈ aberto, ls <+: origem.licitacoes
  | _ => True

/-- The update puts everything it adds at the position of its number. -/
structure EmOrdem (u : Relato R) (registo : Directory.Empresa R) (aberto : Option (Leilao R)) :
    Prop where
  leiloes : u.NumeraLeiloes registo
  emissoes : u.NumeraEmissoes registo
  licitacoes : u.PosicionaLicitacoes registo aberto
  emprestimos : u.NumeraEmprestimos registo

end Exchange.Relato

namespace Directory

theorem mantidas_numbered {leilao : Exchange.Leilao R}
    (first : leilao.alocadas <+: leilao.licitacoes) : Numbered Prod.snd (mantidas leilao) := by
  rw [numbered_iff_map, mantidas, List.map_map]
  have positions := leilao.map_snd_alocadasNumeradas first
  intro i n found
  rw [List.getElem?_map, Option.map_eq_some_iff] at found
  obtain ⟨p, hp, rfl⟩ := found
  have here := congrArg (fun ns => ns[i]?) positions
  simp only [List.getElem?_map, hp, Option.map_some] at here
  obtain ⟨_, same⟩ := List.getElem?_eq_some_iff.1 here.symm
  rw [List.getElem_range] at same
  rw [Function.comp_apply, same]

variable {m : Numeradas R} {registo : Empresa R} {aberto : Option (Exchange.Leilao R)}
  {u : Relato R} {agora : LocalDateTime}

theorem Numeradas.NoLugar.recebe (h : m.NoLugar) (same : m.Do registo) (fits : u.Do aberto)
    (in_order : u.EmOrdem registo aberto) : (m.recebe aberto u).NoLugar := by
  cases u with
  | leilao idL taxaMaxima montanteTotal =>
      refine ⟨?_, h.emissoes⟩
      simpa [Numeradas.recebe, or_imp, forall_and] using h.leiloes
  | emissao idL taxa montanteTotal =>
      refine ⟨h.leiloes, ?_⟩
      simpa [Numeradas.recebe, or_imp, forall_and] using h.emissoes
  | licitacao idL id l =>
      refine ⟨(forall_mem_emPosicao h.leiloes).2 fun ls found => ?_, h.emissoes⟩
      obtain ⟨leilao, record, bids⟩ := Java.get_of_map_eq same.leiloes found
      refine numbered_concat.2 ⟨h.leiloes ls (Java.mem_of_get found), ?_⟩
      have position := in_order.licitacoes leilao record
      rwa [bids, List.length_map] at position
  | emprestimo idL id investidor quantia =>
      refine ⟨h.leiloes, (forall_mem_emPosicao h.emissoes).2 fun ls found => ?_⟩
      obtain ⟨emissao, record, bids⟩ := Java.get_of_map_eq same.emissoes found
      refine numbered_concat.2 ⟨h.emissoes ls (Java.mem_of_get found), ?_⟩
      have position := in_order.emprestimos emissao record
      rwa [bids, List.length_map] at position
  | terminaLeilao idL sucesso alocados =>
      cases alocados with
      | none => exact h
      | some ls =>
          obtain ⟨leilao, rfl, rfl⟩ := fits _ _ _ rfl
          refine ⟨(forall_mem_emPosicao h.leiloes).2 fun ls found => ?_, h.emissoes⟩
          obtain ⟨registado, record, _⟩ := Java.get_of_map_eq same.leiloes found
          exact mantidas_numbered (in_order.licitacoes registado record leilao rfl)
  | terminaEmissao idL sucesso => exact h

theorem Empresa.Numerada.recebe (h : registo.Numerada) (in_order : u.EmOrdem registo aberto) :
    (u.lido.fiel agora registo).Numerada :=
  ⟨(u.numera_leiloes h.leiloes).2 in_order.leiloes,
    (u.numera_emissoes h.emissoes).2 in_order.emissoes⟩

end Directory

end PeerLanding
