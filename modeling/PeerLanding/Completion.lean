import PeerLanding.Serial

/-! Requests and settlements end: each operation of a method leaves fewer to come, and none gets
stuck. -/

namespace PeerLanding.Threads

open Exchange

variable {R : Type}

/-! ### Operations to come -/

def EmLicitar.falta : EmLicitar → Nat
  | .get => 6
  | .add _ => 5
  | .empresa _ => 4
  | .historico _ => 3
  | .size _ _ => 2
  | .post _ _ _ => 1

def EmEmprestimo.falta : EmEmprestimo → Nat
  | .get => 6
  | .add _ => 5
  | .empresa _ => 4
  | .historico _ => 3
  | .size _ _ => 2
  | .post _ _ _ => 1

def EmTaxa.falta : EmTaxa → Nat
  | .lastLeilao => 5
  | .size _ => 4
  | .lastEmissao _ => 3
  | .sucesso _ _ => 2
  | .insucesso _ => 1
  | .maxima _ => 1

def EmEmissao.falta : EmEmissao R → Nat
  | .get => 13
  | .size => 12
  | .lastElement => 11
  | .taxa em => em.falta + 5
  | .empresa _ => 5
  | .historico _ => 4
  | .put _ _ => 3
  | .thread _ _ _ => 2
  | .post _ _ _ => 1

def EmLeilao.falta : EmLeilao → Nat
  | .get => 6
  | .put => 5
  | .empresa _ => 4
  | .historico _ => 3
  | .thread _ _ => 2
  | .post _ _ => 1

/-- At most this many operations are to come before the answer is decided. -/
def Ponto.falta : Ponto R → Nat
  | .licitar _ _ _ _ em => em.falta
  | .emprestimo _ _ _ em => em.falta
  | .emissao _ _ em => em.falta
  | .leilao _ _ _ em => em.falta
  | _ => 0

def EmTerminaLeilao.falta : EmTerminaLeilao R → Nat
  | .remove => 8
  | .soma _ => 7
  | .ordena _ => 6
  | .size _ _ => 5
  | .empresa _ _ _ => 4
  | .add _ _ _ => 3
  | .json _ _ _ => 2
  | .put _ => 1
  | .fim => 0

def EmTerminaEmissao.falta : EmTerminaEmissao R → Nat
  | .remove => 8
  | .setSucesso _ => 7
  | .empresa _ => 6
  | .add _ => 5
  | .soma _ => 4
  | .desfecho _ _ => 3
  | .json _ => 2
  | .put _ => 1
  | .fim => 0

/-- The request `P` goes on with fewer than `falta` operations to come, or is decided. -/
def Ponto.Adianta (P : Pedido R) (falta : Nat) (ponto : Ponto R) : Prop :=
  (ponto.pedido = some P ∧ ponto.falta < falta) ∨ ponto.decisao.isSome

variable [JavaFloat R] [Gson R] {c investidor : String} {quantia : Int32} {juro : R} {idL : Nat}
  {agora agoraDiretorio : LocalDateTime} {m m' : Memoria R}

theorem licitar_adianta {em : EmLicitar} (op : licitar c investidor quantia juro m em = .ok m') :
    m'.exchange.Adianta (.licitar c investidor quantia juro) em.falta := by
  have next' {em' : EmLicitar} (less : em'.falta < em.falta) :
      (Ponto.licitar c investidor quantia juro em').Adianta _ em.falta := .inl ⟨rfl, less⟩
  cases em with
  | get =>
      simp only [licitar] at op
      split at op
      · split at op <;> cases op
        · exact next' (by simp [EmLicitar.falta])
        · exact .inr rfl
      · cases op
        exact .inr rfl
  | add ref =>
      cases op
      exact next' (by simp [EmLicitar.falta])
  | size ref idL =>
      cases op
      exact next' (by simp [EmLicitar.falta])
  | post ref idL id =>
      obtain ⟨_, _, op⟩ := ok_of_bind op
      cases op
      exact .inr rfl
  | _ =>
      obtain ⟨_, _, op⟩ := ok_of_bind op
      cases op
      exact next' (by simp [EmLicitar.falta])

theorem emprestimo_adianta {em : EmEmprestimo}
    (op : emprestimo c investidor quantia m em = .ok m') :
    m'.exchange.Adianta (.emprestimo c investidor quantia) em.falta := by
  have next' {em' : EmEmprestimo} (less : em'.falta < em.falta) :
      (Ponto.emprestimo (R := R) c investidor quantia em').Adianta _ em.falta := .inl ⟨rfl, less⟩
  cases em with
  | get =>
      simp only [emprestimo] at op
      split at op
      · split at op <;> cases op
        · exact next' (by simp [EmEmprestimo.falta])
        · exact .inr rfl
      · cases op
        exact .inr rfl
  | add ref =>
      cases op
      exact next' (by simp [EmEmprestimo.falta])
  | size ref idL =>
      cases op
      exact next' (by simp [EmEmprestimo.falta])
  | post ref idL id =>
      obtain ⟨_, _, op⟩ := ok_of_bind op
      cases op
      exact .inr rfl
  | _ =>
      obtain ⟨_, _, op⟩ := ok_of_bind op
      cases op
      exact next' (by simp [EmEmprestimo.falta])

omit [Gson R] in
theorem taxaEmissao_adianta {e : Empresa} {em em' : EmTaxa}
    (op : taxaEmissao m e em = .ok (.inr em')) : em'.falta < em.falta := by
  cases em with
  | lastLeilao =>
      simp only [taxaEmissao] at op
      split at op <;> cases op
      simp [EmTaxa.falta]
  | size leilao =>
      simp only [taxaEmissao] at op
      split_ifs at op <;> cases op <;> simp [EmTaxa.falta]
  | lastEmissao leilao =>
      simp only [taxaEmissao] at op
      split at op <;> cases op
      simp [EmTaxa.falta]
  | sucesso leilao emissao =>
      simp only [taxaEmissao] at op
      split_ifs at op <;> cases op <;> simp [EmTaxa.falta]
  | insucesso emissao =>
      simp only [taxaEmissao] at op
      split_ifs at op <;> cases op
  | maxima leilao => cases op

theorem emissao_adianta {em : EmEmissao R} (op : emissao c quantia agora m em = .ok m') :
    m'.exchange.Adianta (.emissao c quantia) em.falta := by
  have next' {em' : EmEmissao R} (less : em'.falta < em.falta) :
      (Ponto.emissao c quantia em').Adianta _ em.falta := .inl ⟨rfl, less⟩
  cases em with
  | get =>
      simp only [emissao] at op
      split at op <;> cases op
      · exact next' (by simp [EmEmissao.falta])
      · exact .inr rfl
  | size =>
      obtain ⟨_, _, op⟩ := ok_of_bind op
      split at op <;> cases op
      · exact next' (by simp [EmEmissao.falta])
      · exact .inr rfl
  | lastElement =>
      obtain ⟨_, _, op⟩ := ok_of_bind op
      split at op
      · split at op <;> cases op
        · exact next' (by simp [EmEmissao.falta, EmTaxa.falta])
        · exact .inr rfl
      · cases op
  | taxa em =>
      obtain ⟨e, _, op⟩ := ok_of_bind op
      obtain ⟨r, rated, op⟩ := ok_of_bind op
      cases r with
      | inl taxaMaxima =>
          cases op
          refine next' ?_
          cases em <;> simp [EmEmissao.falta, EmTaxa.falta]
      | inr em' =>
          cases op
          refine next' ?_
          simpa [EmEmissao.falta] using taxaEmissao_adianta rated
  | put taxaMaxima idL =>
      cases op
      exact next' (by simp [EmEmissao.falta])
  | thread taxaMaxima idL ref =>
      cases op
      exact next' (by simp [EmEmissao.falta])
  | post taxaMaxima idL ref =>
      obtain ⟨_, _, op⟩ := ok_of_bind op
      cases op
      exact .inr rfl
  | _ =>
      obtain ⟨_, _, op⟩ := ok_of_bind op
      cases op
      exact next' (by simp [EmEmissao.falta])

theorem leilao_adianta {em : EmLeilao}
    (op : leilao c quantia juro agora agoraDiretorio m em = .ok m') :
    m'.exchange.Adianta (.leilao c quantia juro) em.falta := by
  have next' {em' : EmLeilao} (less : em'.falta < em.falta) :
      (Ponto.leilao c quantia juro em').Adianta _ em.falta := .inl ⟨rfl, less⟩
  cases em with
  | get =>
      simp only [leilao] at op
      split at op
      · split at op <;> cases op
        · exact next' (by simp [EmLeilao.falta])
        · exact .inr rfl
      · cases op
        exact .inr rfl
  | put =>
      cases op
      exact next' (by simp [EmLeilao.falta])
  | thread ref idL =>
      cases op
      exact next' (by simp [EmLeilao.falta])
  | post ref idL =>
      obtain ⟨_, _, op⟩ := ok_of_bind op
      cases op
      exact .inr rfl
  | _ =>
      obtain ⟨_, _, op⟩ := ok_of_bind op
      cases op
      exact next' (by simp [EmLeilao.falta])

theorem terminaLeilao_adianta {em em' : EmTerminaLeilao R} (corre : em ≠ .fim)
    (op : terminaLeilao c idL m em = .ok (em', m')) : em'.falta < em.falta := by
  cases em with
  | remove =>
      simp only [terminaLeilao] at op
      split at op <;> cases op
      simp [EmTerminaLeilao.falta]
  | soma ref =>
      simp only [terminaLeilao] at op
      split at op <;> cases op <;> simp [EmTerminaLeilao.falta]
  | ordena ref =>
      cases op
      simp [EmTerminaLeilao.falta]
  | size ref alocados =>
      simp only [terminaLeilao] at op
      split at op <;> cases op <;> simp [EmTerminaLeilao.falta]
  | put data =>
      cases op
      simp [EmTerminaLeilao.falta]
  | fim => exact absurd rfl corre
  | _ =>
      obtain ⟨_, _, op⟩ := ok_of_bind op
      cases op
      simp [EmTerminaLeilao.falta]

theorem terminaEmissao_adianta {em em' : EmTerminaEmissao R} (corre : em ≠ .fim)
    (op : terminaEmissao c idL m em = .ok (em', m')) : em'.falta < em.falta := by
  cases em with
  | remove =>
      simp only [terminaEmissao] at op
      split at op <;> cases op
      simp [EmTerminaEmissao.falta]
  | setSucesso ref =>
      cases op
      simp [EmTerminaEmissao.falta]
  | soma ref =>
      cases op
      simp [EmTerminaEmissao.falta]
  | desfecho ref sucesso =>
      cases op
      simp [EmTerminaEmissao.falta]
  | put data =>
      cases op
      simp [EmTerminaEmissao.falta]
  | fim => exact absurd rfl corre
  | _ =>
      obtain ⟨_, _, op⟩ := ok_of_bind op
      cases op
      simp [EmTerminaEmissao.falta]

/-! ### Whole requests and whole settlements -/

/-- No settlement is half done, with two exceptions. -/
structure Memoria.Quieta (m : Memoria R) (exceto exceto' : Option Nat) : Prop where
  leiloes : ∀ ref fio, exceto ≠ some ref → m.terminaLeiloes ref = some fio → fio.em.meio = false
  emissoes : ∀ ref fio, exceto' ≠ some ref → m.terminaEmissoes ref = some fio →
    fio.em.meio = false

/-- Every thread is between two pieces of work. -/
structure Memoria.Sossegada (m : Memoria R) : Prop where
  exchange : m.exchange = .recv ∨ m.exchange = .fim
  fios : m.Quieta none none

/-- What the threads do by themselves, one step at a time and without overlaps. -/
abbrev Cumpre (K K' : LocalDateTime → Prop) (m : Memoria R) (shown : List (Feito R))
    (Ends : Memoria R → Prop) : Prop :=
  Runs.Answered Memoria.Passa (Lance.Isolado K K') Lance.feito m shown Ends

section Quieta

variable {exceto exceto' : Option Nat}

omit [JavaFloat R] [Gson R] in
theorem Memoria.Quieta.semLeiloes (h : m.Quieta exceto exceto') (c : String) :
    m.SemLeiloes c exceto := by
  intro ref _ other
  cases there : m.terminaLeiloes ref with
  | none => rfl
  | some fio => simp [Fio.ocupa, h.leiloes ref fio other there]

omit [JavaFloat R] [Gson R] in
theorem Memoria.Quieta.semEmissoes (h : m.Quieta exceto exceto') (c : String) :
    m.SemEmissoes c exceto' := by
  intro ref _ other
  cases there : m.terminaEmissoes ref with
  | none => rfl
  | some fio => simp [Fio.ocupa, h.emissoes ref fio other there]

omit [JavaFloat R] [Gson R] in
theorem Memoria.Quieta.fios (h : m.Quieta none none) (old : FiosDeAntes m m') :
    m'.Quieta none none := by
  refine ⟨fun ref fio other there => ?_, fun ref fio other there => ?_⟩
  · rcases old.1 ref fio there with before | new
    · exact h.leiloes ref fio other before
    · exact new
  · rcases old.2 ref fio there with before | new
    · exact h.emissoes ref fio other before
    · exact new

end Quieta

/-- A request in progress has a next operation, after which it has fewer to come or is decided. -/
theorem exchange_adianta {P : Pedido R} (at' : m.exchange.pedido = some P)
    (agora agoraDiretorio : LocalDateTime) :
    ∃ r m', m.Passa (.exchange agora agoraDiretorio) r m' ∧ FiosDeAntes m m' ∧
      ((r = none ∧ m'.exchange.Adianta P m.exchange.falta) ∨
        ∃ e, r = some (.excecao e) ∧ m'.exchange = .fim) := by
  have failed {e : Excecao} {x : Except Excecao (Memoria R)}
      (goes : m.passa agora agoraDiretorio = some (m.seguinte x)) (op : x = .error e) :
      ∃ r m', m.Passa (.exchange agora agoraDiretorio) r m' ∧ FiosDeAntes m m' ∧
        ((r = none ∧ m'.exchange.Adianta P m.exchange.falta) ∨
          ∃ e, r = some (.excecao e) ∧ m'.exchange = .fim) :=
    ⟨_, m.em .fim, by rw [Memoria.Passa, Memoria.proximo, goes, op, Memoria.seguinte],
      fiosDeAntes_of_eq rfl rfl, .inr ⟨e, rfl, rfl⟩⟩
  have gone {m' : Memoria R} {x : Except Excecao (Memoria R)}
      (goes : m.passa agora agoraDiretorio = some (m.seguinte x)) (op : x = .ok m')
      (fios : FiosDeAntes m m') (next' : m'.exchange.Adianta P m.exchange.falta) :
      ∃ r m', m.Passa (.exchange agora agoraDiretorio) r m' ∧ FiosDeAntes m m' ∧
        ((r = none ∧ m'.exchange.Adianta P m.exchange.falta) ∨
          ∃ e, r = some (.excecao e) ∧ m'.exchange = .fim) :=
    ⟨none, m', by rw [Memoria.Passa, Memoria.proximo, goes, op, Memoria.seguinte], fios,
      .inl ⟨rfl, next'⟩⟩
  unfold Memoria.passa at gone failed
  cases exch : m.exchange with
  | licitar empresa investidor quantia juro em =>
      rw [exch] at at' gone failed
      cases at'
      cases op : licitar empresa investidor quantia juro m em with
      | ok m' => exact gone rfl op (licitar_fios op) (licitar_adianta op)
      | error e => exact failed rfl op
  | emprestimo empresa investidor quantia em =>
      rw [exch] at at' gone failed
      cases at'
      cases op : emprestimo empresa investidor quantia m em with
      | ok m' => exact gone rfl op (emprestimo_fios op) (emprestimo_adianta op)
      | error e => exact failed rfl op
  | emissao empresa quantia em =>
      rw [exch] at at' gone failed
      cases at'
      cases op : Threads.emissao empresa quantia agora m em with
      | ok m' => exact gone rfl op (emissao_fios op) (emissao_adianta op)
      | error e => exact failed rfl op
  | leilao empresa quantia juro em =>
      rw [exch] at at' gone failed
      cases at'
      cases op : Threads.leilao empresa quantia juro agora agoraDiretorio m em with
      | ok m' => exact gone rfl op (leilao_fios op) (leilao_adianta op)
      | error e => exact failed rfl op
  | _ =>
      rw [exch] at at'
      cases at'

variable {K K' : LocalDateTime → Prop}

theorem decisao_cumpre (relogio : K agora) (relogio' : K' agoraDiretorio)
    (quiet : m.Quieta none none) (decided : m.exchange.decisao.isSome) :
    Cumpre K K' m [] Memoria.Sossegada := by
  have sent {r : Resultado} (goes : m.passa agora agoraDiretorio = some (some r, m.em .recv))
      (none' : m.exchange.pedido = none) : Cumpre K K' m [] Memoria.Sossegada := by
    have step : m.Passa (.exchange agora agoraDiretorio) (some r) (m.em .recv) := goes
    have isolado : m.Isolado (.exchange agora agoraDiretorio) :=
      fun c _ => ⟨quiet.semLeiloes c, quiet.semEmissoes c⟩
    have silent : Lance.feito ⟨m, .exchange agora agoraDiretorio, some r, m.em .recv⟩ = none := by
      simp only [Lance.feito, none']
    have answer : Cumpre K K' m _ Memoria.Sossegada :=
      Runs.answered_step step ⟨isolado, relogio, relogio'⟩ ⟨.inl rfl, quiet.1, quiet.2⟩
    rwa [silent] at answer
  cases exch : m.exchange with
  | aceita p objeto idL =>
      exact sent (r := .resposta true) (by simp only [Memoria.passa, exch]) (by rw [exch]; rfl)
  | recusa =>
      exact sent (r := .resposta false) (by simp only [Memoria.passa, exch]) (by rw [exch]; rfl)
  | _ =>
      rw [exch] at decided
      cases decided

/-- A request that nothing overlaps with is carried out and answered, or ends the exchange. -/
theorem pedido_cumpre {P : Pedido R} (relogio : K agora) (relogio' : K' agoraDiretorio)
    (quiet : m.Quieta none none) (at' : m.exchange.pedido = some P) :
    ∃ r, Cumpre K K' m [.pedido P r] Memoria.Sossegada := by
  induction few : m.exchange.falta using Nat.strong_induction_on generalizing m with
  | _ n ih =>
    obtain ⟨r, m', step, fios, ends⟩ := exchange_adianta at' agora agoraDiretorio
    have isolado : m.Isolado (.exchange agora agoraDiretorio) :=
      fun c _ => ⟨quiet.semLeiloes c, quiet.semEmissoes c⟩
    have first : Cumpre K K' m (Lance.feito ⟨m, .exchange agora agoraDiretorio, r, m'⟩).toList
        (· = m') := Runs.answered_step step ⟨isolado, relogio, relogio'⟩ rfl
    simp only [Lance.feito, at'] at first
    rcases ends with ⟨rfl, ⟨goesOn, less⟩ | decided⟩ | ⟨e, rfl, stopped⟩
    · obtain ⟨r, rest⟩ := ih _ (few ▸ less) (quiet.fios fios) goesOn rfl
      have undecided : m'.exchange.decisao = none := by
        cases exch : m'.exchange <;> rw [exch] at goesOn <;> cases goesOn <;> rfl
      rw [undecided] at first
      refine ⟨r, first.trans fun u here => ?_⟩
      exact here ▸ rest
    · obtain ⟨res, decided'⟩ := Option.isSome_iff_exists.1 decided
      rw [decided'] at first
      refine ⟨res, first.trans fun u here => ?_⟩
      exact here ▸ decisao_cumpre relogio relogio' (quiet.fios fios) decided
    · rw [stopped] at first
      refine ⟨.excecao e, first.trans fun u here => ?_⟩
      exact here ▸ Runs.answered_nil ⟨.inr stopped, quiet.fios fios⟩

theorem recv_cumpre (relogio : ∃ agora, K agora) (relogio' : ∃ agora, K' agora)
    (quiet : m.Sossegada) (vivo : m.exchange ≠ .fim) (P : Pedido R) :
    ∃ r, Cumpre K K' m [.pedido P r] Memoria.Sossegada := by
  obtain ⟨agora, relogio⟩ := relogio
  obtain ⟨agoraDiretorio, relogio'⟩ := relogio'
  have at' : m.exchange = .recv := quiet.exchange.resolve_right vivo
  have step : m.Passa (.recv P) none (m.em (inicio P)) := by
    simp only [Memoria.Passa, Memoria.proximo, at']
  have first : Cumpre K K' m (Lance.feito ⟨m, .recv P, none, m.em (inicio P)⟩).toList
      (· = m.em (inicio P)) := Runs.answered_step step ⟨trivial, trivial⟩ rfl
  have fios : (m.em (inicio P)).Quieta none none := ⟨quiet.fios.1, quiet.fios.2⟩
  cases P with
  | outro =>
      refine ⟨.resposta false, first.trans fun u here => ?_⟩
      exact here ▸ decisao_cumpre relogio relogio' fios rfl
  | _ =>
      obtain ⟨r, rest⟩ := pedido_cumpre relogio relogio' fios rfl
      refine ⟨r, first.trans fun u here => ?_⟩
      exact here ▸ rest

/-- A thread that works by itself is done with its work, if each operation leaves fewer to come. -/
theorem fio_cumpre {E : Type} {em : E} (falta : E → Nat) (fim : E) (aqui : Memoria R → E → Prop)
    (feito : Resultado → Feito R)
    (adianta : ∀ m em, aqui m em → em ≠ fim → ∃ l r m' em', m.Passa l r m' ∧
      Lance.Isolado K K' ⟨m, l, r, m'⟩ ∧ aqui m' em' ∧ falta em' < falta em ∧
      (em' = fim → Lance.feito ⟨m, l, r, m'⟩ = some (feito (r.getD .fim))) ∧
      (em' ≠ fim → Lance.feito ⟨m, l, r, m'⟩ = none))
    (acaba : ∀ m, aqui m fim → m.Sossegada) (at' : aqui m em) (corre : em ≠ fim) :
    ∃ r, Cumpre K K' m [feito r] Memoria.Sossegada := by
  induction few : falta em using Nat.strong_induction_on generalizing m em with
  | _ n ih =>
    obtain ⟨l, r, m', em', step, isolado, here, less, shown, silent⟩ := adianta m em at' corre
    have first : Cumpre K K' m (Lance.feito ⟨m, l, r, m'⟩).toList (· = m') :=
      Runs.answered_step step isolado rfl
    by_cases stopped : em' = fim
    · rw [shown stopped] at first
      refine ⟨r.getD .fim, first.trans fun u same => ?_⟩
      exact same ▸ Runs.answered_nil (acaba m' (stopped ▸ here))
    · rw [silent stopped] at first
      obtain ⟨r', rest⟩ := ih _ (few ▸ less) here stopped rfl
      refine ⟨r', first.trans fun u same => ?_⟩
      exact same ▸ rest

section Fios

variable {E : Type} {meio : E → Bool} {f f' : Nat → Option (Fio E)} {ref : Nat} {x : Fio E}

theorem fios_outros (put : f' = Function.update f ref (some x))
    (quiet : ∀ other fio, some ref ≠ some other → f other = some fio → meio fio.em = false)
    (other : Nat) (fio : Fio E) (differs : some ref ≠ some other) (there : f' other = some fio) :
    meio fio.em = false := by
  have elsewhere : other ≠ ref := by simpa [eq_comm] using differs
  rw [put, Function.update_of_ne elsewhere] at there
  exact quiet other fio differs there

theorem fios_todos (here : f ref = some x) (done : meio x.em = false)
    (quiet : ∀ other fio, some ref ≠ some other → f other = some fio → meio fio.em = false)
    (other : Nat) (fio : Fio E) (there : f other = some fio) : meio fio.em = false := by
  by_cases same : ref = other
  · subst same
    rw [here, Option.some.injEq] at there
    exact there ▸ done
  · exact quiet other fio (by simpa using same) there

end Fios

theorem terminaLeilao_proxima {ref : Nat} {em : EmTerminaLeilao R}
    (at' : m.terminaLeiloes ref = some ⟨c, idL, em⟩) (corre : em ≠ .fim) :
    ∃ (r : Option Resultado) (em' : EmTerminaLeilao R) (m' : Memoria R),
      m.Passa (.terminaLeilao ref) r (m'.poeTerminaLeilao ref ⟨c, idL, em'⟩) ∧
      m'.terminaLeiloes = m.terminaLeiloes ∧ m'.terminaEmissoes = m.terminaEmissoes ∧
      m'.exchange = m.exchange ∧ em'.falta < em.falta := by
  cases op : terminaLeilao c idL m em with
  | ok next' =>
      obtain ⟨em', m'⟩ := next'
      obtain ⟨threads, exchange, _⟩ := terminaLeilao_threads op
      refine ⟨none, em', m', ?_, threads, terminaLeilao_terminaEmissoes op, exchange,
        terminaLeilao_adianta corre op⟩
      simp only [Memoria.Passa, Memoria.proximo, at']
      cases em with
      | fim => exact absurd rfl corre
      | _ => simp only [op]
  | error e =>
      refine ⟨some (.excecao e), .fim, m, ?_, rfl, rfl, rfl, ?_⟩
      · simp only [Memoria.Passa, Memoria.proximo, at']
        cases em with
        | fim => exact absurd rfl corre
        | _ => simp only [op]
      · cases em with
        | fim => exact absurd rfl corre
        | _ => simp [EmTerminaLeilao.falta]

theorem terminaEmissao_proxima {ref : Nat} {em : EmTerminaEmissao R}
    (at' : m.terminaEmissoes ref = some ⟨c, idL, em⟩) (corre : em ≠ .fim) :
    ∃ (r : Option Resultado) (em' : EmTerminaEmissao R) (m' : Memoria R),
      m.Passa (.terminaEmissao ref) r (m'.poeTerminaEmissao ref ⟨c, idL, em'⟩) ∧
      m'.terminaLeiloes = m.terminaLeiloes ∧ m'.terminaEmissoes = m.terminaEmissoes ∧
      m'.exchange = m.exchange ∧ em'.falta < em.falta := by
  cases op : terminaEmissao c idL m em with
  | ok next' =>
      obtain ⟨em', m'⟩ := next'
      obtain ⟨threads, threads', exchange, _⟩ := terminaEmissao_threads op
      refine ⟨none, em', m', ?_, threads, threads', exchange, terminaEmissao_adianta corre op⟩
      simp only [Memoria.Passa, Memoria.proximo, at']
      cases em with
      | fim => exact absurd rfl corre
      | _ => simp only [op]
  | error e =>
      refine ⟨some (.excecao e), .fim, m, ?_, rfl, rfl, rfl, ?_⟩
      · simp only [Memoria.Passa, Memoria.proximo, at']
        cases em with
        | fim => exact absurd rfl corre
        | _ => simp only [op]
      · cases em with
        | fim => exact absurd rfl corre
        | _ => simp [EmTerminaEmissao.falta]

theorem terminaLeilao_cumpre {ref : Nat} {em : EmTerminaLeilao R}
    (quiet : m.Quieta (some ref) none) (exchange : m.exchange = .recv ∨ m.exchange = .fim)
    (at' : m.terminaLeiloes ref = some ⟨c, idL, em⟩) (corre : em ≠ .fim) :
    ∃ r, Cumpre K K' m [.terminaLeilao ⟨c, idL, ref⟩ r] Memoria.Sossegada := by
  refine fio_cumpre EmTerminaLeilao.falta .fim (fun m em => m.Quieta (some ref) none ∧
    (m.exchange = .recv ∨ m.exchange = .fim) ∧ m.terminaLeiloes ref = some ⟨c, idL, em⟩)
    _ ?_ ?_ ⟨quiet, exchange, at'⟩ corre
  · rintro m em ⟨quiet, exchange, at'⟩ corre
    obtain ⟨r, em', m', step, leiloes, emissoes, exchange', less⟩ :=
      terminaLeilao_proxima at' corre
    have put : (m'.poeTerminaLeilao ref ⟨c, idL, em'⟩).terminaLeiloes =
        Function.update m.terminaLeiloes ref (some ⟨c, idL, em'⟩) := by
      rw [Memoria.poeTerminaLeilao, leiloes]
    have here : (m'.poeTerminaLeilao ref ⟨c, idL, em'⟩).terminaLeiloes ref =
        some ⟨c, idL, em'⟩ := by
      rw [put, Function.update_self]
    refine ⟨_, r, _, em', step, ⟨fun fio _ => ⟨?_, quiet.semLeiloes _, quiet.semEmissoes _⟩,
      trivial⟩, ⟨⟨fios_outros put quiet.leiloes, emissoes ▸ quiet.emissoes⟩, exchange' ▸ exchange,
        here⟩, less, ?_, ?_⟩
    · rcases exchange with at' | at' <;> simp [at', Ponto.meio, Ponto.empresa]
    · rintro rfl
      simp only [Lance.feito, here, EmTerminaLeilao.acabou, if_true]
    · intro goesOn
      have silent : em'.acabou = false := by cases em' <;> first | rfl | contradiction
      simp only [Lance.feito, here, silent, Bool.false_eq_true, if_false]
  · rintro m ⟨quiet, exchange, at'⟩
    exact ⟨exchange, fun other fio _ => fios_todos at' rfl quiet.leiloes other fio, quiet.emissoes⟩

theorem terminaEmissao_cumpre {ref : Nat} {em : EmTerminaEmissao R}
    (quiet : m.Quieta none (some ref)) (exchange : m.exchange = .recv ∨ m.exchange = .fim)
    (at' : m.terminaEmissoes ref = some ⟨c, idL, em⟩) (corre : em ≠ .fim) :
    ∃ r, Cumpre K K' m [.terminaEmissao ⟨c, idL, ref⟩ r] Memoria.Sossegada := by
  refine fio_cumpre EmTerminaEmissao.falta .fim (fun m em => m.Quieta none (some ref) ∧
    (m.exchange = .recv ∨ m.exchange = .fim) ∧ m.terminaEmissoes ref = some ⟨c, idL, em⟩)
    _ ?_ ?_ ⟨quiet, exchange, at'⟩ corre
  · rintro m em ⟨quiet, exchange, at'⟩ corre
    obtain ⟨r, em', m', step, leiloes, emissoes, exchange', less⟩ :=
      terminaEmissao_proxima at' corre
    have put : (m'.poeTerminaEmissao ref ⟨c, idL, em'⟩).terminaEmissoes =
        Function.update m.terminaEmissoes ref (some ⟨c, idL, em'⟩) := by
      rw [Memoria.poeTerminaEmissao, emissoes]
    have here : (m'.poeTerminaEmissao ref ⟨c, idL, em'⟩).terminaEmissoes ref =
        some ⟨c, idL, em'⟩ := by
      rw [put, Function.update_self]
    refine ⟨_, r, _, em', step, ⟨fun fio _ => ⟨?_, quiet.semLeiloes _, quiet.semEmissoes _⟩,
      trivial⟩, ⟨⟨leiloes ▸ quiet.leiloes, fios_outros put quiet.emissoes⟩, exchange' ▸ exchange,
        here⟩, less, ?_, ?_⟩
    · rcases exchange with at' | at' <;> simp [at', Ponto.meio, Ponto.empresa]
    · rintro rfl
      simp only [Lance.feito, here, EmTerminaEmissao.acabou, if_true]
    · intro goesOn
      have silent : em'.acabou = false := by cases em' <;> first | rfl | contradiction
      simp only [Lance.feito, here, silent, Bool.false_eq_true, if_false]
  · rintro m ⟨quiet, exchange, at'⟩
    exact ⟨exchange, quiet.leiloes, fun other fio _ => fios_todos at' rfl quiet.emissoes other fio⟩

end PeerLanding.Threads
