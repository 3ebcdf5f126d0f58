import PeerLanding.CountedBids
import PeerLanding.Exchange.Specs
import PeerLanding.Showcase

/-! The flag of an emission while it is settled. `TerminaEmissao` sets it before the emission is
in the history, and sets it again when the loans have been summed. -/

namespace PeerLanding

/-- The loans of the emission reach its amount. -/
def Exchange.Emissao.Subscrita {R : Type} (emissao : Exchange.Emissao R) : Prop :=
  emissao.montanteTotal ≤ emissao.getInvestimentoTotal

instance {R : Type} (emissao : Exchange.Emissao R) : Decidable emissao.Subscrita :=
  inferInstanceAs (Decidable (_ ≤ _))

namespace Threads

open Exchange Showcase

variable {R : Type}

def Memoria.historicoEmissoes (m : Memoria R) (c : String) : List Nat :=
  ((m.empresas c).map Empresa.historicoEmissoes).getD []

def EmTerminaEmissao.estadio : EmTerminaEmissao R → Option (Nat × Stage)
  | .setSucesso emissao => some (emissao, .taken)
  | .empresa emissao => some (emissao, .marked)
  | .add emissao => some (emissao, .marked)
  | .soma emissao => some (emissao, .exhibited)
  | .desfecho emissao sucesso => some (emissao, .judged sucesso)
  | _ => none

/-- The emission whose flag `taxaEmissao` is about to read. -/
def Ponto.lida : Ponto R → Option Nat
  | .emissao _ _ (.taxa (.sucesso _ ref)) => some ref
  | _ => none

/-- The emissions as the threads handle them. -/
def Memoria.vitrine (m : Memoria R) : Case String Nat where
  shelf := m.emissoes
  shown := m.historicoEmissoes
  good := Emissao.Subscrita ∘ m.emissao
  mark := Emissao.sucesso ∘ m.emissao
  hand ref := (m.terminaEmissoes ref).bind (·.em.estadio)
  reader := m.exchange.lida
  fresh := m.novaRef

def EmTerminaEmissao.aPublicar : EmTerminaEmissao R → Option Nat
  | .add emissao => some emissao
  | _ => none

/-- The emission that the step adds a loan to, or puts into the history. -/
def Lance.expoe [JavaFloat R] (e : Lance R) : Option Event :=
  match e.label with
  | .exchange _ _ =>
      match e.result, e.pre.exchange with
      | none, .emprestimo _ investidor quantia (.add emissaoAtual) =>
          some (.change emissaoAtual
            ((e.pre.emissao emissaoAtual).comLicitacao (.semTaxa investidor quantia)).Subscrita)
      | _, _ => none
  | .terminaEmissao ref =>
      match e.result with
      | none => ((e.pre.terminaEmissoes ref).bind (·.em.aPublicar)).map .exhibit
      | some _ => none
  | _ => none

section Passos

variable [JavaFloat R] [Gson R] {m m' : Memoria R} {empresa investidor : String}
  {quantia : Int32} {juro : R} {agora agoraDiretorio : LocalDateTime}

omit [Gson R] [JavaFloat R] in
theorem vitrine_em (m : Memoria R) (ponto : Ponto R) :
    (m.em ponto).vitrine = { m.vitrine with reader := ponto.lida } := rfl

omit [Gson R] [JavaFloat R] in
theorem vitrine_poe (m : Memoria R) (ref : Nat) (fio : Fio (EmTerminaEmissao R)) :
    (m.poeTerminaEmissao ref fio).vitrine =
      { m.vitrine with hand := Function.update m.vitrine.hand ref fio.em.estadio } := by
  simp only [Memoria.vitrine, Memoria.poeTerminaEmissao]
  congr 1
  funext w
  by_cases same : w = ref
  · simp [same]
  · simp [same]

omit [Gson R] [JavaFloat R] in
theorem vitrine_sucesso (m : Memoria R) (ref : Nat) (sucesso : Bool) :
    Memoria.vitrine
      { m with emissao := Function.update m.emissao ref { m.emissao ref with sucesso } } =
      { m.vitrine with mark := Function.update m.vitrine.mark ref sucesso } := by
  simp only [Memoria.vitrine, Function.comp_update]
  congr 1
  exact Function.update_eq_self ref (Emissao.Subscrita ∘ m.emissao)

omit [Gson R] [JavaFloat R] in
theorem vitrine_semLer (ponto : Ponto R) (none_read : ponto.lida = none) :
    m.vitrine.Step none (m.em ponto).vitrine := by
  rw [vitrine_em, none_read]
  exact .rest (fun _ found => by cases found) le_rfl

theorem emprestimo_vitrine {em : EmEmprestimo}
    (at' : m.exchange = .emprestimo empresa investidor quantia em)
    (op : emprestimo empresa investidor quantia m em = .ok m') :
    m.vitrine.Step (Lance.expoe ⟨m, .exchange agora agoraDiretorio, none, m'⟩) m'.vitrine := by
  simp only [Lance.expoe, at']
  cases em with
  | get =>
      simp only [emprestimo] at op
      split at op
      · split at op <;> cases op <;> exact vitrine_semLer _ rfl
      · cases op
        exact vitrine_semLer _ rfl
  | add emissaoAtual =>
      cases op
      have marks : Function.update (Emissao.sucesso ∘ m.emissao) emissaoAtual
          (m.emissao emissaoAtual).sucesso = Emissao.sucesso ∘ m.emissao :=
        Function.update_eq_self ..
      simp only [Memoria.vitrine, Function.comp_update]
      rw [marks]
      exact .change (s := m.vitrine) _ _
  | size emissaoAtual idL =>
      cases op
      exact vitrine_semLer _ rfl
  | _ =>
      obtain ⟨_, _, op⟩ := ok_of_bind op
      cases op
      exact vitrine_semLer _ rfl

omit [Gson R] in
theorem taxaEmissao_lida {empresaObj : Empresa} {em em' : EmTaxa} {ref : Nat}
    (op : taxaEmissao m empresaObj em = .ok (.inr em'))
    (found : (Ponto.emissao empresa quantia (.taxa em') : Ponto R).lida = some ref) :
    ref ∈ empresaObj.historicoEmissoes := by
  cases em with
  | lastEmissao leilao =>
      simp only [taxaEmissao] at op
      split at op
      · next last =>
          cases op
          cases found
          exact List.mem_of_getLast? last
      · cases op
  | lastLeilao =>
      simp only [taxaEmissao] at op
      split at op <;> cases op
      cases found
  | size leilao =>
      simp only [taxaEmissao] at op
      split_ifs at op <;> cases op <;> cases found
  | sucesso leilao emissao =>
      simp only [taxaEmissao] at op
      split_ifs at op <;> cases op <;> cases found
  | insucesso emissao =>
      simp only [taxaEmissao] at op
      split_ifs at op <;> cases op
  | maxima leilao => cases op

theorem emissao_vitrine {em : EmEmissao R} (at' : m.exchange = .emissao empresa quantia em)
    (op : emissao empresa quantia agora m em = .ok m') : m.vitrine.Step none m'.vitrine := by
  cases em with
  | get =>
      simp only [emissao] at op
      split at op <;> cases op <;> exact vitrine_semLer _ rfl
  | size =>
      obtain ⟨_, _, op⟩ := ok_of_bind op
      split at op <;> cases op <;> exact vitrine_semLer _ rfl
  | lastElement =>
      obtain ⟨_, _, op⟩ := ok_of_bind op
      split at op
      · split at op <;> cases op <;> exact vitrine_semLer _ rfl
      · cases op
  | taxa em =>
      obtain ⟨empresaObj, he, op⟩ := ok_of_bind op
      obtain ⟨fim, taxa, op⟩ := ok_of_bind op
      cases fim with
      | inl taxaMaxima =>
          cases op
          exact vitrine_semLer _ rfl
      | inr em' =>
          cases op
          rw [vitrine_em]
          refine .rest ?_ le_rfl
          intro ref found
          refine .inr ⟨empresa, ?_⟩
          have last := taxaEmissao_lida taxa found
          simpa [Memoria.vitrine, Memoria.historicoEmissoes, empresaDe_eq_ok.1 he] using last
  | put taxaMaxima idL =>
      cases op
      simp only [Memoria.vitrine, Function.comp_update]
      exact .put (s := m.vitrine) empresa _
  | thread taxaMaxima idL novaEmissao =>
      cases op
      change m.vitrine.Step none
        ((m.poeTerminaEmissao novaEmissao ⟨empresa, idL, .remove⟩).em _).vitrine
      rw [vitrine_em, vitrine_poe]
      have idle : m.vitrine.reader = none := by
        rw [Memoria.vitrine, at']
        rfl
      have step := Case.Step.leave (s := m.vitrine) novaEmissao
      rw [idle] at step
      exact step
  | _ =>
      obtain ⟨_, _, op⟩ := ok_of_bind op
      cases op
      exact vitrine_semLer _ rfl

theorem licitar_vitrine {em : EmLicitar}
    (op : licitar empresa investidor quantia juro m em = .ok m') :
    m.vitrine.Step none m'.vitrine := by
  cases em with
  | get =>
      simp only [licitar] at op
      split at op
      · split at op <;> cases op <;> exact vitrine_semLer _ rfl
      · cases op
        exact vitrine_semLer _ rfl
  | add leilaoAtual =>
      cases op
      exact vitrine_semLer (m := m) (.licitar empresa investidor quantia juro _) rfl
  | size leilaoAtual idL =>
      cases op
      exact vitrine_semLer _ rfl
  | _ =>
      obtain ⟨_, _, op⟩ := ok_of_bind op
      cases op
      exact vitrine_semLer _ rfl

theorem leilao_vitrine {em : EmLeilao}
    (op : leilao empresa quantia juro agora agoraDiretorio m em = .ok m') :
    m.vitrine.Step none m'.vitrine := by
  cases em with
  | get =>
      simp only [leilao] at op
      split at op
      · split at op <;> cases op <;> exact vitrine_semLer _ rfl
      · cases op
        exact vitrine_semLer _ rfl
  | put =>
      cases op
      exact .rest (fun _ found => by cases found) (Nat.le_succ _)
  | thread leilao idL =>
      cases op
      exact .rest (fun _ found => by cases found) le_rfl
  | _ =>
      obtain ⟨_, _, op⟩ := ok_of_bind op
      cases op
      exact vitrine_semLer _ rfl

omit [Gson R] [JavaFloat R] in
theorem historicoEmissoes_update (m : Memoria R) (c : String) (empresaObj : Empresa) :
    Memoria.historicoEmissoes
      { m with empresas := Function.update m.empresas c (some empresaObj) } =
      Function.update m.historicoEmissoes c empresaObj.historicoEmissoes :=
  Function.comp_update (fun o : Option Empresa => (o.map Empresa.historicoEmissoes).getD []) ..

theorem terminaLeilao_vitrine {idL : Nat} {em em' : EmTerminaLeilao R}
    (op : terminaLeilao empresa idL m em = .ok (em', m')) : m'.vitrine = m.vitrine := by
  cases em with
  | remove =>
      simp only [terminaLeilao] at op
      split at op <;> cases op
      rfl
  | soma leilao =>
      simp only [terminaLeilao] at op
      split at op <;> cases op <;> rfl
  | size leilao alocados =>
      simp only [terminaLeilao] at op
      split at op <;> cases op <;> rfl
  | empresa leilao sucesso alocou =>
      obtain ⟨_, _, op⟩ := ok_of_bind op
      cases op
      rfl
  | add leilao sucesso alocou =>
      obtain ⟨empresaObj, he, op⟩ := ok_of_bind op
      cases op
      have same : Function.update m.historicoEmissoes empresa empresaObj.historicoEmissoes =
          m.historicoEmissoes := by
        refine Function.update_eq_iff.2 ⟨?_, fun _ _ => rfl⟩
        simp [Memoria.historicoEmissoes, empresaDe_eq_ok.1 he]
      simp only [Memoria.vitrine]
      rw [historicoEmissoes_update, same]
  | json leilao sucesso alocou =>
      obtain ⟨_, _, op⟩ := ok_of_bind op
      cases op
      rfl
  | _ =>
      cases op
      rfl

theorem terminaEmissao_vitrine {ref idL : Nat} {em em' : EmTerminaEmissao R}
    (at' : m.terminaEmissoes ref = some ⟨empresa, idL, em⟩)
    (op : terminaEmissao empresa idL m em = .ok (em', m')) :
    m.vitrine.Step
      (Lance.expoe ⟨m, .terminaEmissao ref, none, m'.poeTerminaEmissao ref ⟨empresa, idL, em'⟩⟩)
      (m'.poeTerminaEmissao ref ⟨empresa, idL, em'⟩).vitrine := by
  have before : m.vitrine.hand ref = em.estadio := by simp [Memoria.vitrine, at']
  have mantem {em' : EmTerminaEmissao R} (same : em'.estadio = em.estadio) :
      m.vitrine.Step none (m.poeTerminaEmissao ref ⟨empresa, idL, em'⟩).vitrine := by
    rw [vitrine_poe, same, ← before, Function.update_eq_self]
    exact .rest (fun _ found => .inl found) le_rfl
  simp only [Lance.expoe, at', Option.bind_some]
  cases em with
  | remove =>
      simp only [terminaEmissao] at op
      split at op
      · next emissao found =>
          cases op
          rw [vitrine_poe]
          exact .take found ref
      · cases op
  | setSucesso emissao =>
      cases op
      rw [vitrine_poe, vitrine_sucesso]
      exact .mark before
  | empresa emissao =>
      obtain ⟨_, _, op⟩ := ok_of_bind op
      cases op
      exact mantem rfl
  | add emissao =>
      obtain ⟨empresaObj, he, op⟩ := ok_of_bind op
      cases op
      have shown : m.historicoEmissoes empresa = empresaObj.historicoEmissoes := by
        simp [Memoria.historicoEmissoes, empresaDe_eq_ok.1 he]
      rw [vitrine_poe]
      simp only [Memoria.vitrine]
      rw [historicoEmissoes_update, ← shown]
      exact .exhibit before empresa
  | soma emissao =>
      cases op
      rw [vitrine_poe]
      exact .judge before _
  | desfecho emissao sucesso =>
      cases op
      rw [vitrine_poe, vitrine_sucesso]
      exact .settle before
  | json sucesso =>
      obtain ⟨_, _, op⟩ := ok_of_bind op
      cases op
      exact mantem rfl
  | put data =>
      cases op
      change m.vitrine.Step none (m.poeTerminaEmissao ref ⟨empresa, idL, .fim⟩).vitrine
      exact mantem rfl
  | fim =>
      cases op
      exact mantem rfl

theorem Memoria.Move.vitrine {l : Passo R} {r : Option Resultado} (h : m.Move l r m') :
    m.vitrine.Step (Lance.expoe ⟨m, l, r, m'⟩) m'.vitrine := by
  cases h with
  | @recv p at' => cases p <;> exact vitrine_semLer _ rfl
  | licitar at' op =>
      simp only [Lance.expoe, at']
      exact licitar_vitrine op
  | emprestimo at' op => exact emprestimo_vitrine at' op
  | emissao at' op =>
      simp only [Lance.expoe, at']
      exact emissao_vitrine at' op
  | leilao at' op =>
      simp only [Lance.expoe, at']
      exact leilao_vitrine op
  | falhaLeilao at' op => exact vitrine_semLer _ rfl
  | falha outro meio => exact vitrine_semLer _ rfl
  | aceita at' => exact vitrine_semLer _ rfl
  | recusa at' => exact vitrine_semLer _ rfl
  | terminaLeilao at' corre op =>
      change m.vitrine.Step none (Memoria.vitrine _)
      exact terminaLeilao_vitrine op ▸ .rest (fun _ found => .inl found) le_rfl
  | falhaTerminaLeilao at' corre op => exact .rest (fun _ found => .inl found) le_rfl
  | terminaEmissao at' corre op => exact terminaEmissao_vitrine at' op
  | @falhaTerminaEmissao ref idL empresa em erro at' corre op =>
      rw [vitrine_poe]
      exact .leave ref

/-- The step puts no emission into the history before its loans reach the amount, and no loan
takes a settled one that has reached it below. -/
def Memoria.PublicaSubscrita (m : Memoria R) : Passo R → Prop
  | .terminaEmissao ref =>
      ∀ fio ∈ m.terminaEmissoes ref, ∀ emissao ∈ fio.em.aPublicar,
        (m.empresas fio.empresa).isSome → (m.emissao emissao).Subscrita
  | .exchange _ _ =>
      ∀ empresa investidor quantia ref,
        m.exchange = .emprestimo empresa investidor quantia (.add ref) →
          (∃ c, ref ∈ m.historicoEmissoes c) → (m.emissao ref).sucesso = true →
            ((m.emissao ref).comLicitacao (.semTaxa investidor quantia)).Subscrita
  | _ => True

/-- Adding a loan is the only operation of the exchange thread that counts. -/
theorem fair_exchange {r : Option Resultado} (h : m.Passa (.exchange agora agoraDiretorio) r m') :
    m.vitrine.Fair (Lance.expoe ⟨m, .exchange agora agoraDiretorio, r, m'⟩) ↔
      m.PublicaSubscrita (.exchange agora agoraDiretorio) := by
  by_cases adds : ∃ empresa investidor quantia ref,
      m.exchange = .emprestimo empresa investidor quantia (.add ref)
  · obtain ⟨empresa, investidor, quantia, ref, at'⟩ := adds
    obtain rfl : none = r := by
      simp only [Memoria.Passa, Memoria.proximo, Memoria.passa, at', emprestimo] at h
      exact congrArg Prod.fst (Option.some.inj h)
    simp only [Lance.expoe, at', Case.Fair, Memoria.PublicaSubscrita]
    refine ⟨?_, ?_⟩
    · intro fair _ _ _ _ same
      cases same
      exact fair
    · intro fair
      exact fair empresa investidor quantia ref rfl
  · have quiet : Lance.expoe ⟨m, .exchange agora agoraDiretorio, r, m'⟩ = none := by
      simp only [Lance.expoe]
      split
      · next at' => exact absurd ⟨_, _, _, _, at'⟩ adds
      · rfl
    rw [quiet]
    exact iff_of_true trivial fun _ _ _ _ at' => absurd ⟨_, _, _, _, at'⟩ adds

theorem fair_terminaEmissao {ref : Nat} {r : Option Resultado}
    (h : m.Passa (.terminaEmissao ref) r m') :
    m.vitrine.Fair (Lance.expoe ⟨m, .terminaEmissao ref, r, m'⟩) ↔
      m.PublicaSubscrita (.terminaEmissao ref) := by
  cases h.move with
  | @terminaEmissao _ idL empresa em em' m' at' corre op =>
      simp only [Lance.expoe, Memoria.PublicaSubscrita, at', Option.bind_some]
      cases em with
      | add emissao =>
          obtain ⟨empresaObj, he, _⟩ := ok_of_bind op
          have hosted := empresaDe_eq_ok.1 he
          simp [EmTerminaEmissao.aPublicar, Case.Fair, Memoria.vitrine, hosted]
      | _ => simp [EmTerminaEmissao.aPublicar, Case.Fair]
  | @falhaTerminaEmissao _ idL empresa em e at' corre op =>
      refine iff_of_true trivial ?_
      intro fio found emissao publishes hosted
      obtain rfl := Option.some.inj (at'.symm.trans found)
      cases em with
      | add emissao =>
          obtain ⟨empresaObj, he⟩ := Option.isSome_iff_exists.1 hosted
          simp [terminaEmissao, Memoria.empresaDe, he] at op
      | _ => cases publishes

theorem fair_iff {l : Passo R} {r : Option Resultado} (h : m.Passa l r m') :
    m.vitrine.Fair (Lance.expoe ⟨m, l, r, m'⟩) ↔ m.PublicaSubscrita l := by
  cases l with
  | recv p => exact Iff.rfl
  | exchange agora agoraDiretorio => exact fair_exchange h
  | terminaLeilao ref => exact Iff.rfl
  | terminaEmissao ref => exact fair_terminaEmissao h

end Passos

variable [JavaFloat R] [Gson R] {m : Memoria R} {nomes registadas : List String}
  {t : List (Lance R)}

/-- An emission in the history that is marked as a success has the loans for it. -/
def Memoria.SucessosCertos (m : Memoria R) : Prop :=
  ∀ c, ∀ ref ∈ m.historicoEmissoes c, (m.emissao ref).sucesso = true → (m.emissao ref).Subscrita

/-- When `taxaEmissao` reads that the last emission was a success, it was one. -/
def Lance.TaxaCerta (e : Lance R) : Prop :=
  ∀ empresa quantia leilao ref,
    e.pre.exchange = .emissao empresa quantia (.taxa (.sucesso leilao ref)) →
      (e.pre.emissao ref).sucesso = true → (e.pre.emissao ref).Subscrita

theorem vitrine_kept (run : Run nomes registadas t m) : m.vitrine.Kept := by
  refine run.invariant (fun _ m => m.vitrine.Kept) ?_ ?_
  · refine Case.kept_nil (fun _ => rfl) ?_ (fun _ => rfl) rfl
    intro c
    simp only [Memoria.vitrine, Memoria.historicoEmissoes, Memoria.inicial]
    split_ifs <;> rfl
  · intro t m l r m' _ kept step
    exact kept.step step.move.vitrine

omit [Gson R] in
theorem sucessosCertos_inicial : (Memoria.inicial nomes registadas : Memoria R).SucessosCertos := by
  intro c ref there
  simp only [Memoria.historicoEmissoes, Memoria.inicial] at there
  split_ifs at there <;> cases there

theorem sucessosCertos_of_run (run : Run nomes registadas t m)
    (right : ∀ e ∈ t, e.post.SucessosCertos) : m.SucessosCertos := by
  cases run with
  | nil => exact sucessosCertos_inicial
  | snoc _ _ => exact right _ (List.mem_append_right _ (List.mem_singleton_self _))

theorem sucessosCertos_iff (run : Run nomes registadas t m) :
    (∀ e ∈ t, e.pre.PublicaSubscrita e.label) ↔ ∀ e ∈ t, e.post.SucessosCertos := by
  induction run with
  | nil => simp
  | @snoc t m m' l r run step ih =>
      simp only [List.forall_mem_append, List.forall_mem_singleton, ih]
      refine and_congr_right ?_
      intro right
      have honest := sucessosCertos_of_run run right
      exact (fair_iff step).symm.trans
        ((vitrine_kept run).honest_iff honest step.move.vitrine).symm

/-- A run marks no emission in a history as a success without the loans for it exactly when no
emission enters a history without them, and no loan takes them away again. -/
theorem failedEmissions (run : Run nomes registadas t m) :
    (∀ e ∈ t, e.pre.PublicaSubscrita e.label) ↔
      ∀ e ∈ t, e.post.SucessosCertos ∧ e.TaxaCerta := by
  rw [sucessosCertos_iff run]
  refine ⟨?_, fun both e he => (both e he).1⟩
  intro right e he
  refine ⟨right e he, ?_⟩
  obtain ⟨u, before, _, recorded⟩ := run.of_mem he
  have honest := sucessosCertos_of_run before fun x hx =>
    right x (recorded.subset (List.mem_append_left _ hx))
  intro empresa quantia leilao ref at' marked
  have found : e.pre.vitrine.reader = some ref := congrArg Ponto.lida at'
  exact (vitrine_kept before).read honest found marked

/-- An auction of `CanecaLda` has succeeded, and its first emission has been opened. -/
def umaEmissao : List (Passo Binary32) :=
  umLeilao ++ .recv (.licitar "CanecaLda" "ana" 1000 (.intBitsToFloat 0x3D4CCCCD)) ::
    List.replicate 7 (.exchange (.atNano 0) (.atNano 0)) ++
    List.replicate 8 (.terminaLeilao 0) ++
    .recv (.emissao "CanecaLda" 1000) :: List.replicate 12 (.exchange (.atNano 0) (.atNano 0))

/-- Nobody lends. The emission is in the history, and not yet judged, when the next one asks for
its rate. -/
def semEmprestimos : List (Passo Binary32) :=
  umaEmissao ++ List.replicate 4 (.terminaEmissao 1) ++
    .recv (.emissao "CanecaLda" 1000) :: List.replicate 7 (.exchange (.atNano 0) (.atNano 0))

theorem semEmprestimos_taken :
    (Memoria.corrida ["CanecaLda"] Directory.nomes semEmprestimos).isSome := by decide +kernel

abbrev semEmprestimosRun : List (Lance Binary32) :=
  ((Memoria.corrida ["CanecaLda"] Directory.nomes semEmprestimos).get semEmprestimos_taken).1

theorem semEmprestimosRun_length : semEmprestimosRun.length = 49 := by decide +kernel

abbrev semEmprestimosTaxa : Lance Binary32 :=
  semEmprestimosRun.get ⟨48, by rw [semEmprestimosRun_length]; decide⟩

/-- The second emission gets the rate of the first, not a tenth more. -/
theorem failedEmissions_unfunded :
    ∃ (t : List (Lance Binary32)) (m : Memoria Binary32),
      Run ["CanecaLda"] Directory.nomes t m ∧ (∃ e ∈ t, ¬e.pre.SucessosCertos ∧ ¬e.TaxaCerta) ∧
        m.exchange = .emissao "CanecaLda" 1000 (.empresa (m.emissao 1).taxa) := by
  have at' : semEmprestimosTaxa.pre.exchange =
      .emissao "CanecaLda" 1000 (.taxa (.sucesso 0 1)) := by decide +kernel
  have there : 1 ∈ semEmprestimosTaxa.pre.historicoEmissoes "CanecaLda" := by decide +kernel
  have marked : (semEmprestimosTaxa.pre.emissao 1).sucesso = true := by decide +kernel
  have short : ¬(semEmprestimosTaxa.pre.emissao 1).Subscrita := by decide +kernel
  refine ⟨_, _, Memoria.run_corrida semEmprestimos_taken,
    ⟨semEmprestimosTaxa, List.get_mem .., ?_, ?_⟩, by decide +kernel⟩
  · intro right
    exact short (right "CanecaLda" 1 there marked)
  · intro right
    exact short (right "CanecaLda" 1000 0 1 at' marked)

def Lance.publica {R : Type} (e : Lance R) : Option Nat :=
  match e.label with
  | .terminaEmissao ref => (e.pre.terminaEmissoes ref).bind (·.em.aPublicar)
  | _ => none

omit [Gson R] in
/-- It is enough that loans come before the emission is marked. -/
theorem Lance.publicaSubscrita {e : Lance R}
    (published : ∀ ref ∈ e.publica, (e.pre.emissao ref).Subscrita)
    (early : ∀ ref ∈ e.pre.exchange.aEmprestar, (e.pre.emissao ref).sucesso = false) :
    e.pre.PublicaSubscrita e.label := by
  cases at' : e.label with
  | terminaEmissao ref =>
      intro fio found emissao publishes _
      refine published emissao ?_
      simp only [Lance.publica, at', Option.mem_def.1 found, Option.bind_some]
      exact publishes
  | exchange agora agoraDiretorio =>
      intro empresa investidor quantia ref adds _ marked
      have unmarked := early ref (by rw [adds]; rfl)
      rw [marked] at unmarked
      cases unmarked
  | _ => trivial

def comEmprestimos : List (Passo Binary32) :=
  umaEmissao ++ .recv (.emprestimo "CanecaLda" "rui" 1000) ::
    List.replicate 7 (.exchange (.atNano 0) (.atNano 0)) ++
    List.replicate 8 (.terminaEmissao 1) ++
    .recv (.emissao "CanecaLda" 1000) :: List.replicate 7 (.exchange (.atNano 0) (.atNano 0))

theorem comEmprestimos_taken :
    (Memoria.corrida ["CanecaLda"] Directory.nomes comEmprestimos).isSome := by decide +kernel

theorem failedEmissions_funded :
    ∃ (t : List (Lance Binary32)) (m : Memoria Binary32),
      Run ["CanecaLda"] Directory.nomes t m ∧ m.historicoEmissoes "CanecaLda" = [1] ∧
        ∀ e ∈ t, e.post.SucessosCertos ∧ e.TaxaCerta := by
  have run := Memoria.run_corrida comEmprestimos_taken
  have published : ∀ e ∈ ((Memoria.corrida ["CanecaLda"] Directory.nomes comEmprestimos).get
      comEmprestimos_taken).1, ∀ ref ∈ e.publica, (e.pre.emissao ref).Subscrita := by
    decide +kernel
  have early : ∀ e ∈ ((Memoria.corrida ["CanecaLda"] Directory.nomes comEmprestimos).get
      comEmprestimos_taken).1, ∀ ref ∈ e.pre.exchange.aEmprestar,
        (e.pre.emissao ref).sucesso = false := by
    decide +kernel
  exact ⟨_, _, run, by decide +kernel, (failedEmissions run).1 fun e he =>
    Lance.publicaSubscrita (published e he) (early e he)⟩

end Threads

end PeerLanding
