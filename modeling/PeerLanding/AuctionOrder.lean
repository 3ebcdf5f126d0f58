import PeerLanding.ThreadSteps

/-! A company's auctions when threads interleave. `leilao` numbers an auction with the size of
the history, and its settlement thread takes it out of `leiloes` before it adds it to the
history: numbers are those of the records as long as `leilao` does not read the size in
between. -/

namespace PeerLanding.Threads

/-- Where the exchange thread is with respect to `leilao` for the company. -/
inductive Curso where
  | fora
  | em (em : EmLeilao)
  | aceita (leilao idL : Nat)

/-- A settlement thread has not started, or it has an auction that is in no history, or neither. -/
inductive Fase where
  | espera
  | janela (leilao : Nat)
  | depois
  deriving DecidableEq

/-- What there is of a company's auctions; `registos` are the numbers of their records in the
Directory. -/
structure Visao where
  aberto : Option Nat
  historico : List Nat
  curso : Curso
  fios : Nat → Option (Nat × Fase)
  registos : Option (List Int)

variable {R : Type}

def Ponto.curso (c : String) : Ponto R → Curso
  | .leilao empresa _ _ em => if empresa = c then .em em else .fora
  | .aceita (.leilao empresa _ _) objeto idL => if empresa = c then .aceita objeto idL else .fora
  | _ => .fora

def EmTerminaLeilao.fase : EmTerminaLeilao R → Fase
  | .remove => .espera
  | .soma leilao => .janela leilao
  | .ordena leilao => .janela leilao
  | .size leilao _ => .janela leilao
  | .empresa leilao _ _ => .janela leilao
  | .add leilao _ _ => .janela leilao
  | .json _ _ _ => .depois
  | .put _ => .depois
  | .fim => .depois

def Memoria.fios (c : String) (m : Memoria R) (ref : Nat) : Option (Nat × Fase) :=
  ((m.terminaLeiloes ref).filter (·.empresa = c)).map fun fio => (fio.idL, fio.em.fase)

def Memoria.historico (c : String) (m : Memoria R) : List Nat :=
  ((m.empresas c).map (·.historicoLeiloes)).getD []

def Memoria.registos (c : String) (m : Memoria R) : Option (List Int) :=
  (m.diretorio c).map fun registo => registo.historicoLeiloes.map (·.id)

def Memoria.visao (c : String) (m : Memoria R) : Visao where
  aberto := m.leiloes c
  historico := m.historico c
  curso := m.exchange.curso c
  fios := m.fios c
  registos := m.registos c

/-- The auction that `leilao` has put into `leiloes` and whose thread it has not started. -/
def EmLeilao.abrindo : EmLeilao → Option Nat
  | .empresa leilao => some leilao
  | .historico leilao => some leilao
  | .thread leilao _ => some leilao
  | _ => none

def Curso.abrindo : Curso → Option Nat
  | .em ponto => ponto.abrindo
  | _ => none

/-- What a step does to the auctions of a company: the thread it starts, the record it makes the
Directory add and the number of the request that it answers with true. -/
inductive Visao.Muda (v : Visao) : Option Nat → Option Nat → Option Nat → Visao → Prop
  | nada : v.Muda none none none v
  | entra (at' : v.curso = .fora) : v.Muda none none none { v with curso := .em .get }
  | recusa (at' : v.curso = .em .get) : v.Muda none none none { v with curso := .fora }
  | testa (at' : v.curso = .em .get) (livre : v.aberto = none) :
      v.Muda none none none { v with curso := .em .put }
  | put (at' : v.curso = .em .put) (leilao : Nat) :
      v.Muda none none none { v with aberto := some leilao, curso := .em (.empresa leilao) }
  | empresa {leilao : Nat} (at' : v.curso = .em (.empresa leilao)) :
      v.Muda none none none { v with curso := .em (.historico leilao) }
  | conta {leilao : Nat} (at' : v.curso = .em (.historico leilao)) :
      v.Muda none none none { v with curso := .em (.thread leilao v.historico.length) }
  | inicia {leilao idL : Nat} (at' : v.curso = .em (.thread leilao idL)) :
      v.Muda (some leilao) none none
        { v with
          curso := .em (.post leilao idL)
          fios := Function.update v.fios leilao (some (idL, .espera)) }
  | publica {leilao idL : Nat} (at' : v.curso = .em (.post leilao idL)) :
      v.Muda none (some leilao) none
        { v with curso := .aceita leilao idL, registos := v.registos.map (· ++ [(idL : Int)]) }
  | aceita {leilao idL : Nat} (at' : v.curso = .aceita leilao idL) :
      v.Muda none none (some idL) { v with curso := .fora }
  | remove {ref idL leilao : Nat} (at' : v.fios ref = some (idL, .espera))
      (aberto : v.aberto = some leilao) :
      v.Muda none none none
        { v with
          aberto := none
          fios := Function.update v.fios ref (some (idL, .janela leilao)) }
  | nulo {ref idL : Nat} (at' : v.fios ref = some (idL, .espera)) (fechado : v.aberto = none) :
      v.Muda none none none { v with fios := Function.update v.fios ref (some (idL, .depois)) }
  | add {ref idL leilao : Nat} (at' : v.fios ref = some (idL, .janela leilao)) :
      v.Muda none none none
        { v with
          historico := v.historico ++ [leilao]
          fios := Function.update v.fios ref (some (idL, .depois)) }

/-! ### The numbers of a run -/

/-- Every thread has settled its auction, except the one that `pendente` says. -/
def Visao.Pendente (v : Visao) (pendente : Option (Nat × Fase)) : Prop :=
  ∀ ref idL fase, v.fios ref = some (idL, fase) → fase = .depois ∨ pendente = some (ref, fase)

/-- The auctions whose threads were started are those in the history, and perhaps one that waits
for its settlement or is being settled. -/
inductive Visao.Situacao (v : Visao) : List Nat → Prop
  | livre (pendente : v.Pendente none) (aberto : v.aberto = v.curso.abrindo)
      (conta : ∀ leilao idL, v.curso = .em (.thread leilao idL) → idL = v.historico.length) :
      v.Situacao v.historico
  | esperando {leilao : Nat} (pendente : v.Pendente (some (leilao, .espera)))
      (aberto : v.aberto = some leilao) (abrindo : v.curso.abrindo = none)
      (put : v.curso ≠ .em .put) : v.Situacao (v.historico ++ [leilao])
  | janela {leilao : Nat} (pendente : v.Pendente (some (leilao, .janela leilao)))
      (liquida : ∃ idL, v.fios leilao = some (idL, .janela leilao))
      (aberto : v.aberto = v.curso.abrindo)
      (conta : ∀ leilao idL, v.curso ≠ .em (.thread leilao idL)) :
      v.Situacao (v.historico ++ [leilao])

/-- The records are those of the started threads, but for the call that is still to be made, and
the numbers answered so far are the first ones. -/
def Publicacao (iniciados publicados aceites : List Nat) : Curso → Prop
  | .em (.post leilao idL) =>
      iniciados = publicados ++ [leilao] ∧ idL = publicados.length ∧
        aceites = List.range publicados.length
  | .aceita _ idL =>
      iniciados = publicados ∧ publicados.length = idL + 1 ∧ aceites = List.range idL
  | _ => iniciados = publicados ∧ aceites = List.range publicados.length

structure Ordem (iniciados publicados aceites : List Nat) (v : Visao) : Prop where
  ids : ∀ ref idL fase, v.fios ref = some (idL, fase) → iniciados[idL]? = some ref
  registos : v.registos = v.registos.map fun _ => (List.range publicados.length).map (↑)
  publicacao : Publicacao iniciados publicados aceites v.curso
  situacao : v.Situacao iniciados

section Ordem

variable {v v' : Visao} {pendente : Option (Nat × Fase)} {iniciados publicados aceites : List Nat}
  {i p a : Option Nat}

def Visao.SemJanela (v : Visao) : Prop :=
  ∀ ref idL leilao, v.fios ref ≠ some (idL, .janela leilao)

theorem Visao.Pendente.update (h : v.Pendente pendente) {ref idL : Nat} {fase : Fase}
    (only : ∀ outro fase, pendente = some (outro, fase) → outro = ref) {w : Visao}
    (fios : w.fios = Function.update v.fios ref (some (idL, fase))) :
    w.Pendente (some (ref, fase)) := by
  intro outro n f found
  rw [fios] at found
  by_cases same : outro = ref
  · rw [same, Function.update_self] at found
    cases found
    exact .inr (by rw [same])
  · rw [Function.update_of_ne same] at found
    cases h outro n f found with
    | inl depois => exact .inl depois
    | inr here => exact absurd (only _ _ here) same

theorem Visao.Pendente.depois (h : v.Pendente pendente) {ref idL : Nat}
    (only : ∀ outro fase, pendente = some (outro, fase) → outro = ref) {w : Visao}
    (fios : w.fios = Function.update v.fios ref (some (idL, .depois))) : w.Pendente none := by
  intro outro n f found
  cases h.update only fios outro n f found with
  | inl depois => exact .inl depois
  | inr here =>
      cases here
      exact .inl rfl

theorem Visao.Pendente.espera (h : v.Pendente pendente) {ref idL : Nat} {fase : Fase}
    (found : v.fios ref = some (idL, fase)) (corre : fase ≠ .depois) :
    pendente = some (ref, fase) := by
  cases h ref idL fase found with
  | inl depois => exact absurd depois corre
  | inr here => exact here

theorem Visao.Situacao.comCurso (h : v.Situacao iniciados) {curso : Curso}
    {registos : Option (List Int)} (abrindo : v.curso.abrindo = curso.abrindo)
    (put : curso = .em .put → v.aberto = none)
    (conta : ∀ leilao idL, curso ≠ .em (.thread leilao idL)) :
    Visao.Situacao { v with curso := curso, registos := registos } iniciados := by
  cases h with
  | livre pendente aberto _ =>
      exact .livre pendente (aberto.trans abrindo) fun _ _ at' => absurd at' (conta _ _)
  | esperando pendente aberto fora _ =>
      refine .esperando pendente aberto (abrindo.symm.trans fora) ?_
      intro at'
      cases (put at').symm.trans aberto
  | janela pendente liquida aberto _ =>
      exact .janela pendente liquida (aberto.trans abrindo) conta

theorem Visao.Situacao.muda (h : v.Situacao iniciados) (hs : v.Muda i p a v')
    (conta : ∀ leilao idL, v.curso = .em (.historico leilao) →
      v'.curso = .em (.thread leilao idL) → v.SemJanela) :
    v'.Situacao (iniciados ++ i.toList) := by
  cases hs with
  | nada => simpa using h
  | inicia at' =>
      rename_i leilao idL
      cases h with
      | livre pendente aberto thread =>
          have open' : v.aberto = some leilao := by rw [aberto, at']; rfl
          exact .esperando (pendente.update (by simp) rfl) open' rfl (by simp)
      | esperando _ _ abrindo _ => simp [at', Curso.abrindo, EmLeilao.abrindo] at abrindo
      | janela _ _ _ thread => exact absurd at' (thread _ _)
  | conta at' =>
      rename_i leilao
      rw [Option.toList_none, List.append_nil]
      cases h with
      | livre pendente aberto _ =>
          refine .livre pendente ?_ ?_
          · rw [aberto, at']
            rfl
          · intro _ _ same
            cases same
            rfl
      | esperando _ _ abrindo _ => simp [at', Curso.abrindo, EmLeilao.abrindo] at abrindo
      | janela _ liquida _ _ =>
          obtain ⟨idL, found⟩ := liquida
          exact absurd found (conta _ _ at' rfl _ _ _)
  | remove at' open' =>
      rename_i ref idL leilao
      rw [Option.toList_none, List.append_nil]
      cases h with
      | livre pendente _ _ => cases pendente.espera at' (by simp)
      | esperando pendente aberto abrindo put =>
          cases pendente.espera at' (by simp)
          cases aberto.symm.trans open'
          refine .janela (pendente.update (by simp) rfl) ⟨idL, by simp⟩ abrindo.symm ?_
          intro _ _ at''
          simp only at at''
          simp [at'', Curso.abrindo, EmLeilao.abrindo] at abrindo
      | janela pendente _ _ _ => cases pendente.espera at' (by simp)
  | nulo at' fechado =>
      cases h with
      | livre pendente _ _ => cases pendente.espera at' (by simp)
      | esperando _ aberto _ _ => cases aberto.symm.trans fechado
      | janela pendente _ _ _ => cases pendente.espera at' (by simp)
  | add at' =>
      rw [Option.toList_none, List.append_nil]
      cases h with
      | livre pendente _ _ => cases pendente.espera at' (by simp)
      | esperando pendente _ _ _ => cases pendente.espera at' (by simp)
      | janela pendente _ aberto thread =>
          cases pendente.espera at' (by simp)
          exact .livre (pendente.depois (by simp) rfl) aberto fun _ _ at'' =>
            absurd at'' (thread _ _)
  | put at' leilao =>
      rw [Option.toList_none, List.append_nil]
      cases h with
      | livre pendente _ _ => exact .livre pendente rfl (by simp)
      | esperando _ _ _ put => exact absurd at' put
      | janela pendente liquida _ _ => exact .janela pendente liquida rfl (by simp)
  | testa at' livre =>
      rw [Option.toList_none, List.append_nil]
      exact h.comCurso (by rw [at']; rfl) (fun _ => livre) (by simp)
  | _ at' =>
      rw [Option.toList_none, List.append_nil]
      exact h.comCurso (by rw [at']; rfl) (by simp) (by simp)

theorem Visao.Situacao.numero (h : v.Situacao iniciados) {leilao idL : Nat}
    (at' : v.curso = .em (.thread leilao idL)) : idL = iniciados.length := by
  cases h with
  | livre _ _ conta => exact conta _ _ at'
  | esperando _ _ abrindo _ => simp [at', Curso.abrindo, EmLeilao.abrindo] at abrindo
  | janela _ _ _ conta => exact absurd at' (conta _ _)

theorem Publicacao.muda (h : Publicacao iniciados publicados aceites v.curso)
    (hs : v.Muda i p a v')
    (numero : ∀ leilao idL, v.curso = .em (.thread leilao idL) → idL = iniciados.length) :
    Publicacao (iniciados ++ i.toList) (publicados ++ p.toList) (aceites ++ a.toList)
      v'.curso := by
  cases hs with
  | nada => simpa using h
  | inicia at' =>
      have next := numero _ _ at'
      rw [at'] at h
      obtain ⟨rfl, rfl⟩ := h
      simp [Publicacao, next]
  | publica at' =>
      rw [at'] at h
      obtain ⟨rfl, rfl, rfl⟩ := h
      simp [Publicacao]
  | _ at' => simp_all [Publicacao, List.range_succ]

theorem Visao.Muda.registada (hs : v.Muda i p a v') :
    v'.registos.isSome = v.registos.isSome := by
  cases hs with
  | publica at' => rw [Option.isSome_map]
  | _ => rfl

theorem Ordem.muda (h : Ordem iniciados publicados aceites v) (hs : v.Muda i p a v')
    (conta : ∀ leilao idL, v.curso = .em (.historico leilao) →
      v'.curso = .em (.thread leilao idL) → v.SemJanela) :
    Ordem (iniciados ++ i.toList) (publicados ++ p.toList) (aceites ++ a.toList) v' where
  ids := by
    have old {ref idL : Nat} {fase : Fase} (found : v.fios ref = some (idL, fase)) :
        (iniciados ++ i.toList)[idL]? = some ref :=
      List.getElem?_append_left
        (List.getElem?_eq_some_iff.1 (h.ids ref idL fase found)).1 ▸ h.ids ref idL fase found
    have moved {ref idL : Nat} {fase nova : Fase} (at' : v.fios ref = some (idL, fase))
        (outro n : Nat) (f : Fase)
        (found : Function.update v.fios ref (some (idL, nova)) outro = some (n, f)) :
        (iniciados ++ i.toList)[n]? = some outro := by
      by_cases same : outro = ref
      · rw [same, Function.update_self] at found
        cases found
        exact same ▸ old at'
      · rw [Function.update_of_ne same] at found
        exact old found
    cases hs with
    | inicia at' =>
        rename_i leilao idL
        intro outro n f found
        have next := h.situacao.numero at'
        by_cases same : outro = leilao
        · simp only [same, Function.update_self, Option.some.injEq, Prod.mk.injEq] at found
          simp [same, ← found.1, next]
        · simp only [Function.update_of_ne same] at found
          exact old found
    | remove at' _ => exact moved at'
    | nulo at' _ => exact moved at'
    | add at' => exact moved at'
    | _ => exact fun ref idL fase found => old found
  registos := by
    cases hs with
    | publica at' =>
        have published := h.publicacao
        rw [at'] at published
        obtain ⟨_, rfl, _⟩ := published
        rw [h.registos]
        simp [List.range_succ, Function.comp_def]
    | _ => simpa using h.registos
  publicacao := h.publicacao.muda hs fun _ _ at' => h.situacao.numero at'
  situacao := h.situacao.muda hs conta

end Ordem

end PeerLanding.Threads
