import PeerLanding.Attribution

/-! The whole system: the front-end, the exchanges that `Exchange.main` starts, and the
Directory that they share. An exchange takes a request that a producer has sent to its
address; its reply is the producer's. -/

namespace PeerLanding

open Exchange Frontend

/-- The exchanges are given by the address of their `rep` socket. -/
structure Rede (Packet R : Type) where
  portal : Portal Packet R
  exchanges : String → Option (Sistema R)
  diretorio : Directory R

namespace Rede

/-- `exchange` hands the `n`-th request in flight to its exchange. -/
inductive Evento (Packet : Type) where
  | portal (e : Frontend.Evento Packet)
  | exchange (amb : Ambiente) (n : Nat)
  | terminaLeilao (amb : Ambiente) (endereco : String) (thread : TerminaLeilao)
  | terminaEmissao (amb : Ambiente) (endereco : String) (thread : TerminaEmissao)

variable {Packet R : Type} [JavaFloat R] [Gson R]

def passaNa (s : Rede Packet R) (endereco : String) (l : Passo R) :
    Option (Resultado × Rede Packet R) :=
  match s.exchanges endereco with
  | none => none
  | some exchange =>
      (Sistema.proximo { exchange with diretorio := s.diretorio } l).map fun p =>
        (p.1, { s with
          exchanges := Function.update s.exchanges endereco (some p.2)
          diretorio := p.2.diretorio })

/-- A request that raises an exception is not answered. -/
def proximo (protocolo : Protocolo Packet R) (s : Rede Packet R) :
    Evento Packet → Option (Option (Nat × Escrita) × Rede Packet R)
  | .portal (.exchange _ _) => none
  | .portal e => (s.portal.proximo protocolo e).map fun p => (p.1, { s with portal := p.2 })
  | .exchange amb n =>
      match s.portal.enviados[n]? with
      | none => none
      | some q =>
          match s.passaNa q.endereco (.pedido amb (pedido q.mensagem)) with
          | some (.resposta sucesso, s') =>
              (s.portal.proximo protocolo (.exchange n sucesso)).map fun p =>
                (p.1, { s' with portal := p.2 })
          | some (_, s') => some (none, s')
          | none => none
  | .terminaLeilao amb endereco thread =>
      (s.passaNa endereco (.terminaLeilao amb thread)).map fun p => (none, p.2)
  | .terminaEmissao amb endereco thread =>
      (s.passaNa endereco (.terminaEmissao amb thread)).map fun p => (none, p.2)

def inicial : Rede Packet R where
  portal := Portal.inicial
  exchanges := fun endereco =>
    (main.lookup endereco).map fun nomes => Sistema.inicial nomes Directory.nomes
  diretorio := Directory.novo

def Passa (protocolo : Protocolo Packet R) (s : Rede Packet R) (e : Evento Packet)
    (r : Option (Nat × Escrita)) (s' : Rede Packet R) : Prop :=
  s.proximo protocolo e = some (r, s')

abbrev Lance (Packet R : Type) : Type :=
  Runs.Transition (Rede Packet R) (Evento Packet) (Option (Nat × Escrita))

abbrev Run (protocolo : Protocolo Packet R) : List (Lance Packet R) → Rede Packet R → Prop :=
  Runs.Run (Passa protocolo) inicial

def corrida (protocolo : Protocolo Packet R) (eventos : List (Evento Packet)) :
    Option (List (Lance Packet R) × Rede Packet R) :=
  Runs.exec (proximo protocolo) inicial eventos

theorem run_corrida {protocolo : Protocolo Packet R} {eventos : List (Evento Packet)}
    (h : (corrida protocolo eventos).isSome) :
    Run protocolo ((corrida protocolo eventos).get h).1
      ((corrida protocolo eventos).get h).2 := Runs.run_exec h

/-! ### The parts of a step -/

/-- What a step asks of an exchange: a request that a producer has sent, or the end of an
auction or of an emission. -/
inductive Pede (s : Rede Packet R) (endereco : String) : Passo R → Prop
  | pedido {q : Enviado R} (amb : Ambiente) (sent : q ∈ s.portal.enviados)
      (para : q.endereco = endereco) : Pede s endereco (.pedido amb (pedido q.mensagem))
  | terminaLeilao (amb : Ambiente) (thread : TerminaLeilao) :
      Pede s endereco (.terminaLeilao amb thread)
  | terminaEmissao (amb : Ambiente) (thread : TerminaEmissao) :
      Pede s endereco (.terminaEmissao amb thread)

variable {protocolo : Protocolo Packet R} {s s' : Rede Packet R} {e : Evento Packet}
  {r : Option (Nat × Escrita)}

/-- The exchanges after a step: at most one of them has moved. -/
inductive Move (s : Rede Packet R) (exchanges : String → Option (Sistema R)) : Prop
  | parado (same : exchanges = s.exchanges)
  | moveu {endereco : String} {l : Passo R} {r : Resultado} {exchange exchange' : Sistema R}
      (found : s.exchanges endereco = some exchange) (pede : s.Pede endereco l)
      (step : Sistema.Passa { exchange with diretorio := s.diretorio } l r exchange')
      (now : exchanges = Function.update s.exchanges endereco (some exchange'))

theorem move_of_passaNa {endereco : String} {l : Passo R} {resultado : Resultado}
    (h : s.passaNa endereco l = some (resultado, s')) (pede : s.Pede endereco l) :
    s.Move s'.exchanges ∧ s'.portal = s.portal := by
  unfold passaNa at h
  cases found : s.exchanges endereco with
  | none => simp [found] at h
  | some exchange =>
      simp only [found, Option.map_eq_some_iff] at h
      obtain ⟨⟨r, exchange'⟩, step, heq⟩ := h
      cases heq
      exact ⟨.moveu found pede step rfl, rfl⟩

theorem Passa.move (h : s.Passa protocolo e r s') :
    s.Move s'.exchanges ∧
      (s'.portal = s.portal ∨ ∃ e', s.portal.Passa protocolo e' r s'.portal) := by
  unfold Passa at h
  cases e with
  | portal e =>
      cases e with
      | exchange n sucesso => cases h
      | _ =>
          simp only [proximo, Option.map_eq_some_iff] at h
          obtain ⟨⟨r, portal⟩, step, heq⟩ := h
          cases heq
          exact ⟨.parado rfl, .inr ⟨_, step⟩⟩
  | exchange amb n =>
      simp only [proximo] at h
      cases la : s.portal.enviados[n]? with
      | none => simp [la] at h
      | some q =>
          simp only [la] at h
          have pede : s.Pede q.endereco (.pedido amb (pedido q.mensagem)) :=
            .pedido amb (List.mem_of_getElem? la) rfl
          cases passed : s.passaNa q.endereco (.pedido amb (pedido q.mensagem)) with
          | none => simp [passed] at h
          | some p =>
              obtain ⟨resultado, m⟩ := p
              obtain ⟨moved, portal⟩ := move_of_passaNa passed pede
              simp only [passed] at h
              cases resultado with
              | resposta sucesso =>
                  simp only [Option.map_eq_some_iff] at h
                  obtain ⟨⟨r, novo⟩, step, heq⟩ := h
                  cases heq
                  exact ⟨moved, .inr ⟨_, step⟩⟩
              | excecao erro =>
                  cases h
                  exact ⟨moved, .inl portal⟩
              | fim =>
                  cases h
                  exact ⟨moved, .inl portal⟩
  | terminaLeilao amb endereco thread =>
      simp only [proximo, Option.map_eq_some_iff] at h
      obtain ⟨⟨resultado, m⟩, passed, heq⟩ := h
      cases heq
      obtain ⟨moved, portal⟩ := move_of_passaNa passed (.terminaLeilao amb thread)
      exact ⟨moved, .inl portal⟩
  | terminaEmissao amb endereco thread =>
      simp only [proximo, Option.map_eq_some_iff] at h
      obtain ⟨⟨resultado, m⟩, passed, heq⟩ := h
      cases heq
      obtain ⟨moved, portal⟩ := move_of_passaNa passed (.terminaEmissao amb thread)
      exact ⟨moved, .inl portal⟩

theorem Run.portal {t : List (Lance Packet R)} (h : Run protocolo t s) :
    ∃ u, Portal.Run protocolo u s.portal := by
  refine Runs.Run.invariant (fun _ s => ∃ u, Portal.Run protocolo u s.portal) h ⟨[], .nil⟩ ?_
  intro t s e r s' _ before hs
  obtain ⟨u, run⟩ := before
  cases hs.move.2 with
  | inl same => exact ⟨u, same ▸ run⟩
  | inr moved =>
      obtain ⟨e', step⟩ := moved
      exact ⟨_, run.snoc step⟩

/-- What holds of every exchange at the start and survives every step that the front-end can
cause, on any Directory, holds of every exchange in every run. -/
theorem Run.exchanges {t : List (Lance Packet R)} (h : Run protocolo t s)
    (Inv : Sistema R → Prop)
    (zero : ∀ nomes, Inv (Sistema.inicial nomes Directory.nomes))
    (succ : ∀ (u : List (Frontend.Lance Packet R)) (m : Rede Packet R) endereco l r exchange
      exchange', Portal.Run protocolo u m.portal → m.Pede endereco l → Inv exchange →
      Sistema.Passa { exchange with diretorio := m.diretorio } l r exchange' → Inv exchange')
    {endereco : String} {exchange : Sistema R}
    (found : s.exchanges endereco = some exchange) : Inv exchange := by
  refine Runs.Run.invariant (fun _ s => ∀ endereco exchange,
    s.exchanges endereco = some exchange → Inv exchange) h ?_ ?_ endereco exchange found
  · intro endereco exchange found
    obtain ⟨nomes, _, rfl⟩ := Option.map_eq_some_iff.1 found
    exact zero nomes
  · intro t s e r s' run before hs endereco exchange found
    cases hs.move.1 with
    | parado same => exact before endereco exchange (same ▸ found)
    | @moveu outro l r old novo here pede step now =>
        obtain ⟨u, portal⟩ := Run.portal run
        rw [now, Function.update_apply] at found
        split_ifs at found with same
        · cases found
          exact succ u s outro l r old exchange portal pede (before outro old here) step
        · exact before endereco exchange found

end Rede

end PeerLanding
