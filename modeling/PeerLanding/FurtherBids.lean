import Mathlib.Data.List.Induction
import PeerLanding.Replies
import PeerLanding.Settlement
import PeerLanding.Trace

/-! Bids accepted after an auction or emission is already funded. Any multiple of 100 is
accepted, the negative ones included, so a further bid can take the funding away again;
a sequence of bids never does so exactly when its amounts do not sum to less than zero. -/

namespace PeerLanding

open Exchange WrapSum

variable {R : Type}

theorem totalExato_append (xs ys : List (Licitacao R)) :
    totalExato (xs ++ ys) = totalExato xs + totalExato ys := by
  simp [totalExato]

/-- Settling now would be a success, with the amounts added exactly. The settlement itself decides
so where the two sums stay on one side of the amount (`termina_iff_sucede`). -/
def Exchange.Leilao.Sucede (leilao : Leilao R) : Prop :=
  leilao.montanteTotal.toInt ≤ totalExato leilao.licitacoes

def Exchange.Emissao.Sucede (emissao : Emissao R) : Prop :=
  emissao.montanteTotal.toInt ≤ totalExato emissao.licitacoes

theorem Exchange.Leilao.termina_iff_sucede [JavaFloat R] {leilao : Leilao R}
    (aberto : leilao.sucesso = false)
    (side : SameSide leilao.montanteTotal.toInt (totalExato leilao.licitacoes)) (c : String)
    (idL : Int) : (leilao.termina c idL).1.sucesso = true ↔ leilao.Sucede :=
  (termina_sucesso aberto c idL).trans ((le_somaQuantias_iff _ _).2 side)

theorem Exchange.Emissao.termina_iff_sucede [JavaFloat R] {emissao : Emissao R}
    (side : SameSide emissao.montanteTotal.toInt (totalExato emissao.licitacoes)) (c : String)
    (idL : Int) : (emissao.termina c idL).1.sucesso = true ↔ emissao.Sucede :=
  (emissao.termina_sucesso c idL).trans ((le_somaQuantias_iff _ _).2 side)

/-- The step answers its bid, and does not settle the auction of `c`. -/
def MantemLeilao (c : String) (e : Momento R) : Prop :=
  match e.label with
  | .pedido _ (.licitar d _ _ _) => d = c → ∃ sucesso, e.result = .resposta sucesso
  | .terminaLeilao _ thread => thread.empresa ≠ c
  | _ => True

def MantemEmissao (c : String) (e : Momento R) : Prop :=
  match e.label with
  | .pedido _ (.emissao d _) => d = c → e.result = .resposta false
  | .terminaEmissao _ thread => thread.empresa ≠ c
  | _ => True

variable [JavaFloat R]

section Ficha

variable {c : String} {f f' : Ficha R} {u : List (Momento R)}

/-- A bid that `licitar` accepts for an auction up to `taxaMaxima`. -/
def Admissivel (taxaMaxima : R) (l : Licitacao R) : Prop :=
  JavaFloat.lt l.taxa taxaMaxima = true ∧ l.quantia % 100 = 0 ∧ JavaFloat.isFinite l.taxa = true

/-- While it is open an auction collects exactly the accepted bids. -/
theorem leilao_of_run (h : Runs.Run (Ficha.Passa c) f u f')
    (mantem : ∀ e ∈ u, MantemLeilao c e) {leilao : Leilao R} (aberto : f.leilao = some leilao) :
    f'.leilao = some { leilao with
      licitacoes := leilao.licitacoes ++ licitacoesAceites c u } ∧
    ∀ l ∈ licitacoesAceites c u, Admissivel leilao.taxaMaxima l := by
  refine Runs.Run.invariant_of_guard (fun u f' =>
    f'.leilao = some { leilao with
      licitacoes := leilao.licitacoes ++ licitacoesAceites c u } ∧
    ∀ l ∈ licitacoesAceites c u, Admissivel leilao.taxaMaxima l) _ h mantem ?_ ?_
  · simpa [licitacoesAceites] using aberto
  · intro u f l r f' _ ih hs mantem
    cases hs with
    | licitar amb investidor aberto aceita finito =>
        cases aberto.symm.trans ih.1
        refine ⟨by simp [Leilao.comLicitacao, Momento.licitacaoAceite], ?_⟩
        intro l hl
        simp only [licitacoesAceites_concat, Momento.licitacaoAceite, Momento.aceite_licitar,
          Option.toList_some, List.mem_append, List.mem_singleton] at hl
        cases hl with
        | inl old => exact ih.2 l old
        | inr new => exact new ▸ ⟨aceita.1, aceita.2, finito⟩
    | _ => simp_all [MantemLeilao, Momento.licitacaoAceite]

theorem emissao_of_run (h : Runs.Run (Ficha.Passa c) f u f')
    (mantem : ∀ e ∈ u, MantemEmissao c e) {emissao : Emissao R}
    (aberta : f.emissao = some emissao) :
    f'.emissao = some { emissao with
      licitacoes := emissao.licitacoes ++ emprestimosAceites c u } ∧
    ∀ l ∈ emprestimosAceites c u, ∃ investidor quantia, l = .semTaxa investidor quantia ∧
      quantia % 100 = 0 := by
  refine Runs.Run.invariant_of_guard (fun u f' =>
    f'.emissao = some { emissao with
      licitacoes := emissao.licitacoes ++ emprestimosAceites c u } ∧
    ∀ l ∈ emprestimosAceites c u, ∃ investidor quantia, l = .semTaxa investidor quantia ∧
      quantia % 100 = 0) _ h mantem ?_ ?_
  · simpa [emprestimosAceites] using aberta
  · intro u f l r f' _ ih hs mantem
    cases hs with
    | emprestimo amb investidor aberta multiplo =>
        cases aberta.symm.trans ih.1
        refine ⟨by simp [Emissao.comLicitacao, Momento.emprestimoAceite], ?_⟩
        intro l hl
        simp only [emprestimosAceites_concat, Momento.emprestimoAceite,
          Momento.aceite_emprestimo, Option.toList_some, List.mem_append,
          List.mem_singleton] at hl
        cases hl with
        | inl old => exact ih.2 l old
        | inr new => exact ⟨investidor, _, new, multiplo⟩
    | _ => simp_all [MantemEmissao, Momento.emprestimoAceite]

end Ficha

variable [Gson R] {nomes registadas : List String} {c : String}

/-- From a reachable state, the open auction of `c` accepts the bids `bs` and no others,
with any other steps in between. -/
structure LeilaoAceita (nomes registadas : List String) (c : String) (bs : List (Licitacao R))
    (s s' : Sistema R) (leilao leilao' : Leilao R) : Prop where
  reachable : ∃ t, Sistema.Run nomes registadas t s
  before : s.leiloes c = some leilao
  accepts : ∃ u, Runs.Run Sistema.Passa s u s' ∧ (∀ e ∈ percurso c u, MantemLeilao c e) ∧
    licitacoesAceites c (percurso c u) = bs
  after : s'.leiloes c = some leilao'

structure EmissaoAceita (nomes registadas : List String) (c : String)
    (bs : List (Licitacao R)) (s s' : Sistema R) (emissao emissao' : Emissao R) : Prop where
  reachable : ∃ t, Sistema.Run nomes registadas t s
  before : s.emissoes c = some emissao
  accepts : ∃ u, Runs.Run Sistema.Passa s u s' ∧ (∀ e ∈ percurso c u, MantemEmissao c e) ∧
    emprestimosAceites c (percurso c u) = bs
  after : s'.emissoes c = some emissao'

variable {bs : List (Licitacao R)} {s s' : Sistema R}

theorem LeilaoAceita.licitacoes {leilao leilao' : Leilao R}
    (h : LeilaoAceita nomes registadas c bs s s' leilao leilao') (hc : c ∈ nomes) :
    leilao' = { leilao with licitacoes := leilao.licitacoes ++ bs } ∧
      ∀ l ∈ bs, Admissivel leilao.taxaMaxima l := by
  obtain ⟨t, run⟩ := h.reachable
  obtain ⟨u, segment, mantem, rfl⟩ := h.accepts
  have seen := leilao_of_run (percurso_run (run.hospeda hc) segment) mantem h.before
  exact ⟨Option.some.inj (h.after.symm.trans seen.1), seen.2⟩

theorem EmissaoAceita.licitacoes {emissao emissao' : Emissao R}
    (h : EmissaoAceita nomes registadas c bs s s' emissao emissao') (hc : c ∈ nomes) :
    emissao' = { emissao with licitacoes := emissao.licitacoes ++ bs } ∧
      ∀ l ∈ bs, ∃ investidor quantia, l = .semTaxa investidor quantia ∧ quantia % 100 = 0 := by
  obtain ⟨t, run⟩ := h.reachable
  obtain ⟨u, segment, mantem, rfl⟩ := h.accepts
  have seen := emissao_of_run (percurso_run (run.hospeda hc) segment) mantem h.before
  exact ⟨Option.some.inj (h.after.symm.trans seen.1), seen.2⟩

theorem LeilaoAceita.vivo {leilao leilao' : Leilao R}
    (h : LeilaoAceita nomes registadas c bs s s' leilao leilao') (some_bid : bs ≠ []) :
    s.vivo = true := by
  obtain ⟨u, segment, _, rfl⟩ := h.accepts
  obtain ⟨l, hl⟩ := List.exists_mem_of_ne_nil _ some_bid
  obtain ⟨e, he, accepted⟩ := List.mem_filterMap.1 hl
  obtain ⟨e', he', rfl⟩ := List.mem_map.1 he
  obtain ⟨_, before, step, _⟩ := segment.of_mem he'
  have request : ∃ p, Momento.aceite c (e'.map (·.ficha c)) = some p := by
    unfold Momento.licitacaoAceite at accepted
    split at accepted
    · exact ⟨_, ‹_›⟩
    · cases accepted
  obtain ⟨p, hp⟩ := request
  obtain ⟨amb, label⟩ := Momento.pedido_of_aceite hp
  rw [Runs.Transition.map_label] at label
  rw [label] at step
  exact Sistema.vivo_of_run before (Sistema.passa_pedido step).1

/-! ### The same bids for an auction over nothing -/

/-- A live exchange takes any admissible bids one after the other. -/
theorem leilao_replay {leilao : Leilao R} (bids : ∀ l ∈ bs, Admissivel leilao.taxaMaxima l)
    (vivo : s.vivo = true) (hosted : (s.empresas c).isSome)
    (aberto : s.leiloes c = some leilao) :
    ∃ u s', Runs.Run Sistema.Passa s u s' ∧ (∀ e ∈ percurso c u, MantemLeilao c e) ∧
      licitacoesAceites c (percurso c u) = bs ∧ s'.vivo = true := by
  induction bs using List.reverseRecOn with
  | nil => exact ⟨[], s, .nil, by simp [percurso], rfl, vivo⟩
  | append_singleton bs b ih =>
      obtain ⟨u, m, run, mantem, accepted, alive⟩ := ih fun l hl => bids l (by simp [hl])
      have admissible := bids b (by simp)
      have here := (leilao_of_run (percurso_run hosted run) mantem aberto).1
      obtain ⟨z, step⟩ := Sistema.licitar_responde (.em 0) b.investidor
        (Sistema.hospeda_of_run run hosted) here ⟨admissible.1, admissible.2.1⟩
        admissible.2.2 alive
      refine ⟨_, z, .snoc run step, ?_, ?_, by simpa using (Sistema.passa_pedido step).2⟩
      · intro e he
        rw [percurso_concat, List.mem_append, List.mem_singleton] at he
        cases he with
        | inl old => exact mantem e old
        | inr new => exact new ▸ fun _ => ⟨true, rfl⟩
      · simp [Momento.licitacaoAceite, Runs.Transition.map, accepted]

theorem emissao_replay {emissao : Emissao R}
    (loans : ∀ l ∈ bs, ∃ investidor quantia, l = .semTaxa investidor quantia ∧
      quantia % 100 = 0)
    (vivo : s.vivo = true) (hosted : (s.empresas c).isSome)
    (aberta : s.emissoes c = some emissao) :
    ∃ u s', Runs.Run Sistema.Passa s u s' ∧ (∀ e ∈ percurso c u, MantemEmissao c e) ∧
      emprestimosAceites c (percurso c u) = bs ∧ s'.vivo = true := by
  induction bs using List.reverseRecOn with
  | nil => exact ⟨[], s, .nil, by simp [percurso], rfl, vivo⟩
  | append_singleton bs b ih =>
      obtain ⟨u, m, run, mantem, accepted, alive⟩ := ih fun l hl => loans l (by simp [hl])
      obtain ⟨investidor, quantia, rfl, multiplo⟩ := loans b (by simp)
      have here := (emissao_of_run (percurso_run hosted run) mantem aberta).1
      obtain ⟨z, step⟩ := Sistema.emprestimo_responde (.em 0) investidor
        (Sistema.hospeda_of_run run hosted) here multiplo alive
      refine ⟨_, z, .snoc run step, ?_, ?_, by simpa using (Sistema.passa_pedido step).2⟩
      · intro e he
        rw [percurso_concat, List.mem_append, List.mem_singleton] at he
        cases he with
        | inl old => exact mantem e old
        | inr new => exact new ▸ trivial
      · simp [Momento.emprestimoAceite, Runs.Transition.map, accepted]

theorem exists_leilao (registadas : List String) (hc : c ∈ nomes) {taxa : R}
    (finita : JavaFloat.isFinite taxa = true) :
    ∃ t s, Sistema.Run nomes registadas t s ∧ s.vivo = true ∧
      s.leiloes c = some (Leilao.novo 0 taxa 0 c (.atNano 0)) ∧
      (s.ficha c).terminaLeiloes = [⟨c, 0, 0⟩] ∧
      (s.ficha c).empresa = Empresa.novo c := by
  have hosted : ((Sistema.inicial nomes registadas : Sistema R).empresas c).isSome := by
    simp [Sistema.inicial, hc]
  obtain ⟨s, step⟩ := Sistema.leilao_responde (.em 0) hosted rfl
    (show (0 : Int32) % 1000 = 0 by decide) finita rfl
  have seen := Sistema.ficha_passa (Option.some_get hosted).symm step
  rw [inicial_ficha hc] at seen
  have opened : (s.ficha c).leilao = some (Leilao.novo 0 taxa 0 c (.atNano 0)) ∧
      (s.ficha c).terminaLeiloes = [⟨c, 0, 0⟩] ∧ (s.ficha c).empresa = Empresa.novo c := by
    generalize s.ficha c = f' at seen ⊢
    cases seen with
    | leilao => simp [Ficha.inicial, Ambiente.em]
    | alheio outra _ => exact absurd rfl outra
  obtain ⟨aberto, waiting, nova⟩ := opened
  exact ⟨_, s, .snoc .nil step, by simpa using (Sistema.passa_pedido step).2, aberto,
    waiting, nova⟩

omit [Gson R] in
theorem leilao_vazio_termina (taxa : R) (agora : LocalDateTime) :
    ((Leilao.novo 0 taxa 0 c agora).termina c 0).1 =
      { Leilao.novo 0 taxa 0 c agora with sucesso := true } := by
  simp [Leilao.termina, Leilao.alocaInvestidores, Leilao.novo, Leilao.getInvestimentoTotal,
    somaQuantias, ordena, alocados]

theorem exists_emissao (registadas : List String) (hc : c ∈ nomes) :
    ∃ t s emissao, Sistema.Run (R := R) nomes registadas t s ∧ s.vivo = true ∧
      s.emissoes c = some emissao ∧ emissao.montanteTotal = 0 ∧ emissao.licitacoes = [] := by
  obtain ⟨t, s, run, alive, aberto, waiting, nova⟩ :=
    exists_leilao (R := R) registadas hc JavaFloat.isFinite_zero
  have por : (⟨c, 0, 0⟩ : TerminaLeilao) ∈ (s.ficha c).terminaLeiloes := by simp [waiting]
  obtain ⟨r, m, settles⟩ := Sistema.passa_terminaLeilao (.em 0) (List.mem_of_mem_filter por)
  have seen := Sistema.ficha_passa (Option.some_get (run.hospeda hc)).symm settles
  obtain ⟨empresa, he⟩ := Option.isSome_iff_exists.1
    (Sistema.passa_hospeda (run.hospeda hc) settles)
  have settled : empresa = (Empresa.novo c).comLeilao
      { Leilao.novo 0 JavaFloat.zero 0 c (.atNano 0) with sucesso := true } := by
    have same : (m.ficha c).empresa = empresa := by simp [Sistema.ficha, he]
    rw [← same, ← leilao_vazio_termina]
    change (s.ficha c).leilao = _ at aberto
    generalize s.ficha c = f at *
    generalize m.ficha c = f' at *
    cases seen <;> simp_all
  have pode : empresa.PodeEmitir 0 := by
    rw [settled]
    exact ⟨⟨_, List.getLast?_singleton, rfl⟩, by decide⟩
  have preco : empresa.taxaEmissao = .ok JavaFloat.minValue := by
    rw [settled]
    simp [Empresa.taxaEmissao, Empresa.novo, Leilao.getTaxaLicitacaoMaxima]
  have alive' : m.vivo = true := (Sistema.passa_thread settles (by simp)).vivo.trans alive
  obtain ⟨z, step⟩ := Sistema.emissao_responde (.em 0) he pode preco
    JavaFloat.isFinite_minValue alive'
  have opened : ∃ emissao, (z.ficha c).emissao = some emissao ∧ emissao.montanteTotal = 0 ∧
      emissao.licitacoes = [] := by
    have seen' := Sistema.ficha_passa he step
    generalize m.ficha c = f at seen'
    generalize z.ficha c = f' at seen' ⊢
    cases seen' with
    | emissao => exact ⟨_, Ficha.relata_emissao _ _ _, rfl, rfl⟩
    | alheio outra _ => exact absurd rfl outra
  obtain ⟨emissao, aberta, montante, licitacoes⟩ := opened
  exact ⟨_, z, emissao, .snoc (.snoc run settles) step,
    by simpa using (Sistema.passa_pedido step).2, aberta, montante, licitacoes⟩

omit [JavaFloat R] [Gson R] in
theorem Exchange.Leilao.sucede_append (leilao : Leilao R) (bs : List (Licitacao R)) :
    Leilao.Sucede { leilao with licitacoes := leilao.licitacoes ++ bs } ↔
      leilao.montanteTotal.toInt ≤ totalExato leilao.licitacoes + totalExato bs := by
  rw [Sucede, totalExato_append]

omit [JavaFloat R] [Gson R] in
theorem Exchange.Emissao.sucede_append (emissao : Emissao R) (bs : List (Licitacao R)) :
    Emissao.Sucede { emissao with licitacoes := emissao.licitacoes ++ bs } ↔
      emissao.montanteTotal.toInt ≤ totalExato emissao.licitacoes + totalExato bs := by
  rw [Sucede, totalExato_append]

/-- Accepted somewhere, the bids are accepted for an auction over nothing, which succeeds
without them. -/
theorem LeilaoAceita.vazio {leilao leilao' : Leilao R}
    (h : LeilaoAceita nomes registadas c bs s s' leilao leilao') (hc : c ∈ nomes)
    (some_bid : bs ≠ []) :
    ∃ m m' vazio depois, LeilaoAceita nomes registadas c bs m m' vazio depois ∧
      vazio.Sucede ∧ (depois.Sucede ↔ 0 ≤ totalExato bs) := by
  obtain ⟨t, run⟩ := h.reachable
  have bids := (h.licitacoes hc).2
  have finita := Sistema.taxaMaxima_finita hc run (h.vivo some_bid) leilao h.before
  obtain ⟨t', m, run', alive, aberto, _⟩ := exists_leilao registadas hc finita
  have bids' : ∀ l ∈ bs, Admissivel
      (Leilao.novo 0 leilao.taxaMaxima 0 c (.atNano 0)).taxaMaxima l := bids
  obtain ⟨u, m', segment, mantem, accepted, _⟩ :=
    leilao_replay bids' alive (run'.hospeda hc) aberto
  have after := (leilao_of_run (percurso_run (run'.hospeda hc) segment) mantem aberto).1
  rw [accepted] at after
  refine ⟨m, m', _, _, ⟨⟨t', run'⟩, aberto, ⟨u, segment, mantem, accepted⟩, after⟩, ?_, ?_⟩
  · simp [Leilao.Sucede, totalExato]
  · simp [Leilao.Sucede]

theorem EmissaoAceita.vazia {emissao emissao' : Emissao R}
    (h : EmissaoAceita nomes registadas c bs s s' emissao emissao') (hc : c ∈ nomes) :
    ∃ m m' vazia depois, EmissaoAceita nomes registadas c bs m m' vazia depois ∧
      vazia.Sucede ∧ (depois.Sucede ↔ 0 ≤ totalExato bs) := by
  have loans := (h.licitacoes hc).2
  obtain ⟨t, m, vazia, run, alive, aberta, montante, licitacoes⟩ :=
    exists_emissao (R := R) registadas hc
  obtain ⟨u, m', segment, mantem, accepted, _⟩ :=
    emissao_replay loans alive (run.hospeda hc) aberta
  have after := (emissao_of_run (percurso_run (run.hospeda hc) segment) mantem aberta).1
  rw [accepted] at after
  refine ⟨m, m', _, _, ⟨⟨t, run⟩, aberta, ⟨u, segment, mantem, accepted⟩, after⟩, ?_, ?_⟩
  · simp [Emissao.Sucede, totalExato, montante, licitacoes]
  · simp [Emissao.Sucede, montante, licitacoes]

/-- No open auction that would succeed is unfunded by accepting the bids `bs`. -/
def LeilaoNuncaPrejudicado (nomes registadas : List String) (c : String)
    (bs : List (Licitacao R)) : Prop :=
  ∀ s s' leilao leilao', LeilaoAceita nomes registadas c bs s s' leilao leilao' →
    leilao.Sucede → leilao'.Sucede

def EmissaoNuncaPrejudicada (nomes registadas : List String) (c : String)
    (bs : List (Licitacao R)) : Prop :=
  ∀ s s' emissao emissao', EmissaoAceita nomes registadas c bs s s' emissao emissao' →
    emissao.Sucede → emissao'.Sucede

/-- Further bids never hurt an auction or emission of a hosted company exactly when their
amounts do not sum to less than zero, or no reachable state accepts them. -/
theorem furtherBids_never_hurt_iff (hc : c ∈ nomes) (bs : List (Licitacao R)) :
    (LeilaoNuncaPrejudicado nomes registadas c bs ↔
      ((∃ s s' leilao leilao', LeilaoAceita nomes registadas c bs s s' leilao leilao') →
        0 ≤ totalExato bs)) ∧
    (EmissaoNuncaPrejudicada nomes registadas c bs ↔
      ((∃ s s' emissao emissao', EmissaoAceita nomes registadas c bs s s' emissao emissao') →
        0 ≤ totalExato bs)) := by
  refine ⟨?_, ?_⟩
  · refine ⟨?_, ?_⟩
    · rintro never ⟨s, s', leilao, leilao', accepted⟩
      by_cases some_bid : bs = []
      · simp [some_bid, totalExato]
      · obtain ⟨m, m', vazio, depois, replay, before, after⟩ := accepted.vazio hc some_bid
        exact after.1 (never m m' vazio depois replay before)
    · intro gain s s' leilao leilao' accepted before
      have nonneg := gain ⟨s, s', leilao, leilao', accepted⟩
      rw [(accepted.licitacoes hc).1, Leilao.sucede_append]
      unfold Leilao.Sucede at before
      omega
  · refine ⟨?_, ?_⟩
    · rintro never ⟨s, s', emissao, emissao', accepted⟩
      obtain ⟨m, m', vazia, depois, replay, before, after⟩ := accepted.vazia hc
      exact after.1 (never m m' vazia depois replay before)
    · intro gain s s' emissao emissao' accepted before
      have nonneg := gain ⟨s, s', emissao, emissao', accepted⟩
      rw [(accepted.licitacoes hc).1, Emissao.sucede_append]
      unfold Emissao.Sucede at before
      omega

theorem furtherBids_positive : LeilaoNuncaPrejudicado ["CanecaLda", "SapatoLda"]
    Directory.nomes "CanecaLda" [(⟨"rui", .intBitsToFloat 0x3D4CCCCD, 100⟩ : Licitacao Binary32)] :=
  (furtherBids_never_hurt_iff (by decide) _).1.2 fun _ => by decide

/-- A bid that funds the auction, and a bid that takes the same amount back. -/
def negativeSteps : List (Passo Binary32) :=
  [.pedido (.em 1) (.leilao "CanecaLda" 1000 (.intBitsToFloat 0x3DCCCCCD)),
    .pedido (.em 2) (.licitar "CanecaLda" "ana" 1000 (.intBitsToFloat 0x3D4CCCCD))]

theorem negativeSteps_taken :
    (Sistema.corrida ["CanecaLda", "SapatoLda"] Directory.nomes negativeSteps).isSome := by
  decide

abbrev negativeState : Sistema Binary32 :=
  ((Sistema.corrida ["CanecaLda", "SapatoLda"] Directory.nomes negativeSteps).get
    negativeSteps_taken).2

abbrev negativeBid : Passo Binary32 :=
  .pedido (.em 3) (.licitar "CanecaLda" "rui" (-1000) (.intBitsToFloat 0x3D4CCCCD))

theorem negativeBid_taken : (negativeState.proximo negativeBid).isSome := by decide

abbrev negativeAnswer : Resultado × Sistema Binary32 :=
  (negativeState.proximo negativeBid).get negativeBid_taken

theorem negativeState_open : (negativeState.leiloes "CanecaLda").isSome := by decide

theorem negativeAnswer_open : (negativeAnswer.2.leiloes "CanecaLda").isSome := by decide

theorem negativeBid_aceita : LeilaoAceita ["CanecaLda", "SapatoLda"] Directory.nomes
    "CanecaLda" [⟨"rui", .intBitsToFloat 0x3D4CCCCD, -1000⟩] negativeState negativeAnswer.2
    ((negativeState.leiloes "CanecaLda").get negativeState_open)
    ((negativeAnswer.2.leiloes "CanecaLda").get negativeAnswer_open) := by
  have step : negativeState.Passa negativeBid negativeAnswer.1 negativeAnswer.2 :=
    (Option.some_get negativeBid_taken).symm
  have answered : negativeAnswer.1 = .resposta true := by decide
  refine ⟨⟨_, Sistema.run_corrida negativeSteps_taken⟩, (Option.some_get _).symm,
    ⟨_, .snoc .nil step, ?_, by decide⟩, (Option.some_get _).symm⟩
  intro e he
  rw [percurso_concat, List.mem_append, List.mem_singleton] at he
  cases he with
  | inl old => cases old
  | inr new => exact new ▸ fun _ => ⟨true, answered⟩

theorem furtherBids_negative : ¬LeilaoNuncaPrejudicado ["CanecaLda", "SapatoLda"]
    Directory.nomes "CanecaLda"
    [(⟨"rui", .intBitsToFloat 0x3D4CCCCD, -1000⟩ : Licitacao Binary32)] := by
  intro never
  have after := never _ _ _ _ negativeBid_aceita
    (by simp only [Leilao.Sucede]; decide)
  exact absurd after (by simp only [Leilao.Sucede]; decide)

end PeerLanding
