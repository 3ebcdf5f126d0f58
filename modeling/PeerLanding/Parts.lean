import PeerLanding.Pictures
import PeerLanding.ThreadSteps

/-! The memory of the threads, one company at a time. A company owns the references that were
taken for its auctions and emissions, and its part of the memory has the objects and the threads
under them. `Parte.quadro` follows the references and forgets them. -/

namespace PeerLanding.Threads

open Exchange

variable {R : Type}

@[ext] structure Parte (R : Type) where
  empresa : Option Empresa
  leilaoAtual : Option Nat
  emissaoAtual : Option Nat
  leilao : Nat → Option (Leilao R)
  emissao : Nat → Option (Emissao R)
  fioLeilao : Nat → Option (Fio (EmTerminaLeilao R))
  fioEmissao : Nat → Option (Fio (EmTerminaEmissao R))
  registo : Option (Directory.Empresa R)

/-- What `f` has under the references that `c` owns. -/
def proprio {α : Type} (dono : Nat → Option String) (c : String) (f : Nat → Option α) (ref : Nat) :
    Option α :=
  if dono ref = some c then f ref else none

section Proprio

variable {α : Type} {dono : Nat → Option String} {c d : String} {ref : Nat}

theorem proprio_eq_some {f : Nat → Option α} {x : α} :
    proprio dono c f ref = some x ↔ dono ref = some c ∧ f ref = some x := by
  simp [proprio]

theorem proprio_update (dela : dono ref = some c) (f : Nat → Option α) (x : Option α) :
    proprio dono c (Function.update f ref x) = Function.update (proprio dono c f) ref x := by
  funext other
  by_cases here : other = ref
  · subst here
    simp [proprio, dela]
  · simp [proprio, Function.update_of_ne here]

theorem proprio_update_outra (alheia : dono ref ≠ some c) (f : Nat → Option α) (x : Option α) :
    proprio dono c (Function.update f ref x) = proprio dono c f := by
  funext other
  by_cases here : other = ref
  · subst here
    simp [proprio, alheia]
  · simp [proprio, Function.update_of_ne here]

theorem proprio_dado (f : Nat → Option α) :
    proprio (Function.update dono ref (some c)) c f =
      Function.update (proprio dono c f) ref (f ref) := by
  funext other
  by_cases here : other = ref
  · subst here
    simp [proprio]
  · simp [proprio, Function.update_of_ne here]

theorem proprio_dado_outra (nova : dono ref = none) (outra : d ≠ c) (f : Nat → Option α) :
    proprio (Function.update dono ref (some c)) d f = proprio dono d f := by
  funext other
  by_cases here : other = ref
  · subst here
    simp [proprio, nova, outra.symm]
  · simp [proprio, Function.update_of_ne here]

end Proprio

theorem some_update {α : Type} (f : Nat → α) (ref : Nat) (x : α) :
    (fun other => some (Function.update f ref x other)) =
      Function.update (fun other => some (f other)) ref (some x) := by
  funext other
  by_cases here : other = ref
  · subst here
    simp
  · simp [Function.update_of_ne here]

namespace Memoria

def parte (m : Memoria R) (dono : Nat → Option String) (c : String) : Parte R where
  empresa := m.empresas c
  leilaoAtual := m.leiloes c
  emissaoAtual := m.emissoes c
  leilao := proprio dono c fun ref => some (m.leilao ref)
  emissao := proprio dono c fun ref => some (m.emissao ref)
  fioLeilao := proprio dono c m.terminaLeiloes
  fioEmissao := proprio dono c m.terminaEmissoes
  registo := m.diretorio c

/-- Owned references have been taken, and a thread's reference is its company's. -/
structure Guardada (dono : Nat → Option String) (m : Memoria R) : Prop where
  tomadas : ∀ ref, dono ref ≠ none → ref < m.novaRef
  leiloes : ∀ ref fio, m.terminaLeiloes ref = some fio → dono ref = some fio.empresa
  emissoes : ∀ ref fio, m.terminaEmissoes ref = some fio → dono ref = some fio.empresa

variable {dono : Nat → Option String} {m : Memoria R}

theorem Guardada.nova (h : m.Guardada dono) : dono m.novaRef = none := by
  by_contra taken
  exact absurd (h.tomadas _ taken) (lt_irrefl _)

/-- What a step about `c` does to the memory, seen from the other companies. -/
structure So (c : String) (dono : Nat → Option String) (m : Memoria R)
    (dono' : Nat → Option String) (m' : Memoria R) : Prop where
  alheias : ∀ d, d ≠ c → m'.parte dono' d = m.parte dono d
  guardada : m'.Guardada dono'

end Memoria

namespace Parte

/-- The company with its auctions and emissions in place of their references. -/
def quadro (c : String) (p : Parte R) : Quadro R where
  empresa := p.empresa.map fun e =>
    ⟨c, e.historicoLeiloes.filterMap p.leilao, e.historicoEmissoes.filterMap p.emissao⟩
  leilao := p.leilaoAtual.bind p.leilao
  emissao := p.emissaoAtual.bind p.emissao
  terminaLeiloes := {t | t.empresa = c ∧ p.fioLeilao t.ref = some ⟨c, t.idL, .remove⟩}
  terminaEmissoes := {t | t.empresa = c ∧ p.fioEmissao t.ref = some ⟨c, t.idL, .remove⟩}
  registo := p.registo

/-- The references of the company are its own, and the open auction and the open emission are not
in the histories. -/
structure Arrumada (p : Parte R) : Prop where
  historicoLeiloes : ∀ e, p.empresa = some e → ∀ ref ∈ e.historicoLeiloes, (p.leilao ref).isSome
  historicoEmissoes : ∀ e, p.empresa = some e → ∀ ref ∈ e.historicoEmissoes, (p.emissao ref).isSome
  leilaoAtual : ∀ ref, p.leilaoAtual = some ref → (p.leilao ref).isSome
  emissaoAtual : ∀ ref, p.emissaoAtual = some ref → (p.emissao ref).isSome
  leilaoAberto : ∀ ref e, p.leilaoAtual = some ref → p.empresa = some e → ref ∉ e.historicoLeiloes
  emissaoAberta : ∀ ref e, p.emissaoAtual = some ref → p.empresa = some e →
    ref ∉ e.historicoEmissoes

/-- The part is that of a company that is `q` to anyone who does not see references. -/
structure Fiel (c : String) (q : Quadro R) (p : Parte R) : Prop where
  arrumada : p.Arrumada
  quadro : p.quadro c = q

section Efeitos

variable {c : String} {p : Parte R} {q : Quadro R} {ref : Nat}

theorem filterMap_update {α : Type} {refs : List Nat} (f : Nat → Option α) (x : Option α)
    (outside : ref ∉ refs) : refs.filterMap (Function.update f ref x) = refs.filterMap f := by
  refine List.filterMap_congr fun other here => ?_
  have differs : other ≠ ref := fun same => outside (same ▸ here)
  rw [Function.update_of_ne differs]

theorem isSome_update {α : Type} (f : Nat → Option α) (x : α) {other : Nat}
    (there : (f other).isSome) : (Function.update f ref (some x) other).isSome := by
  by_cases here : other = ref
  · subst here
    simp
  · rwa [Function.update_of_ne here]

theorem Fiel.leilao (h : p.Fiel c q) (at' : p.leilaoAtual = some ref) :
    p.leilao ref = q.leilao := by
  rw [← h.quadro, Parte.quadro, at']
  rfl

theorem Fiel.emissao (h : p.Fiel c q) (at' : p.emissaoAtual = some ref) :
    p.emissao ref = q.emissao := by
  rw [← h.quadro, Parte.quadro, at']
  rfl

theorem Fiel.leilaoAtual (h : p.Fiel c q) : p.leilaoAtual = none ↔ q.leilao = none := by
  rw [← h.quadro, Parte.quadro]
  cases at' : p.leilaoAtual with
  | none => simp
  | some ref =>
      have there := h.arrumada.leilaoAtual ref at'
      simpa using Option.isSome_iff_ne_none.1 there

theorem Fiel.emissaoAtual (h : p.Fiel c q) : p.emissaoAtual = none ↔ q.emissao = none := by
  rw [← h.quadro, Parte.quadro]
  cases at' : p.emissaoAtual with
  | none => simp
  | some ref =>
      have there := h.arrumada.emissaoAtual ref at'
      simpa using Option.isSome_iff_ne_none.1 there

theorem Fiel.empresa {e : Empresa} (h : p.Fiel c q) (he : p.empresa = some e) :
    q.empresa = some
      ⟨c, e.historicoLeiloes.filterMap p.leilao, e.historicoEmissoes.filterMap p.emissao⟩ := by
  rw [← h.quadro, Parte.quadro, he]
  rfl

theorem Fiel.empresa_none (h : p.Fiel c q) (he : p.empresa = none) : q.empresa = none := by
  rw [← h.quadro, Parte.quadro, he]
  rfl

theorem length_filterMap {α : Type} {f : Nat → Option α} {refs : List Nat}
    (there : ∀ ref ∈ refs, (f ref).isSome) : (refs.filterMap f).length = refs.length := by
  induction refs with
  | nil => rfl
  | cons ref refs ih =>
      obtain ⟨x, hx⟩ := Option.isSome_iff_exists.1 (there ref List.mem_cons_self)
      rw [List.filterMap_cons_some hx, List.length_cons, List.length_cons,
        ih fun other old => there other (List.mem_cons_of_mem _ old)]

theorem getLast?_filterMap {α : Type} {f : Nat → Option α} {refs : List Nat}
    (there : ∀ ref ∈ refs, (f ref).isSome) :
    (refs.filterMap f).getLast? = refs.getLast?.bind f := by
  rcases List.eq_nil_or_concat refs with rfl | ⟨old, ref, rfl⟩
  · rfl
  · obtain ⟨x, hx⟩ := Option.isSome_iff_exists.1 (there ref (by simp))
    rw [List.concat_eq_append, List.filterMap_append]
    simp [hx]

theorem Fiel.muda_leilao (h : p.Fiel c q) (at' : p.leilaoAtual = some ref) (x : Leilao R) :
    Fiel c { q with leilao := some x }
      { p with leilao := Function.update p.leilao ref (some x) } := by
  obtain ⟨⟨leiloes, emissoes, atual, emissaoAtual, aberto, aberta⟩, rfl⟩ := h
  refine ⟨⟨?_, emissoes, ?_, emissaoAtual, aberto, aberta⟩, ?_⟩
  · intro e he other old
    exact isSome_update _ _ (leiloes e he other old)
  · intro other now
    exact isSome_update _ _ (atual other now)
  · ext1 <;> try rfl
    · cases he : p.empresa with
      | none => simp [Parte.quadro, he]
      | some e => simp [Parte.quadro, he, filterMap_update _ _ (aberto ref e at' he)]
    · simp [Parte.quadro, at']

theorem Fiel.muda_emissao (h : p.Fiel c q) (at' : p.emissaoAtual = some ref) (x : Emissao R) :
    Fiel c { q with emissao := some x }
      { p with emissao := Function.update p.emissao ref (some x) } := by
  obtain ⟨⟨leiloes, emissoes, atual, emissaoAtual, aberto, aberta⟩, rfl⟩ := h
  refine ⟨⟨leiloes, ?_, atual, ?_, aberto, aberta⟩, ?_⟩
  · intro e he other old
    exact isSome_update _ _ (emissoes e he other old)
  · intro other now
    exact isSome_update _ _ (emissaoAtual other now)
  · ext1 <;> try rfl
    · cases he : p.empresa with
      | none => simp [Parte.quadro, he]
      | some e => simp [Parte.quadro, he, filterMap_update _ _ (aberta ref e at' he)]
    · simp [Parte.quadro, at']

theorem Arrumada.fora_leiloes (h : p.Arrumada) (nova : p.leilao ref = none) {e : Empresa}
    (he : p.empresa = some e) : ref ∉ e.historicoLeiloes := by
  intro old
  have there := h.historicoLeiloes e he ref old
  rw [nova] at there
  cases there

theorem Arrumada.fora_emissoes (h : p.Arrumada) (nova : p.emissao ref = none) {e : Empresa}
    (he : p.empresa = some e) : ref ∉ e.historicoEmissoes := by
  intro old
  have there := h.historicoEmissoes e he ref old
  rw [nova] at there
  cases there

theorem bind_update_other {α : Type} {f : Nat → Option α} {x : Option α} {atual : Option Nat}
    (nova : f ref = none) (there : ∀ other, atual = some other → (f other).isSome) :
    atual.bind (Function.update f ref x) = atual.bind f := by
  cases atual with
  | none => rfl
  | some other =>
      have differs : other ≠ ref := by
        rintro rfl
        have seen := there other rfl
        rw [nova] at seen
        cases seen
      simp [Function.update_of_ne differs]

theorem Fiel.ganha (h : p.Fiel c q) (leilao : p.leilao ref = none) (emissao : p.emissao ref = none)
    (x : Leilao R) (y : Emissao R) :
    Fiel c q { p with
      leilao := Function.update p.leilao ref (some x)
      emissao := Function.update p.emissao ref (some y) } := by
  obtain ⟨⟨leiloes, emissoes, atual, emissaoAtual, aberto, aberta⟩, rfl⟩ := h
  have tidy : p.Arrumada := ⟨leiloes, emissoes, atual, emissaoAtual, aberto, aberta⟩
  refine ⟨⟨?_, ?_, ?_, ?_, aberto, aberta⟩, ?_⟩
  · intro e he other old
    exact isSome_update _ _ (leiloes e he other old)
  · intro e he other old
    exact isSome_update _ _ (emissoes e he other old)
  · intro other now
    exact isSome_update _ _ (atual other now)
  · intro other now
    exact isSome_update _ _ (emissaoAtual other now)
  · ext1 <;> try rfl
    · cases he : p.empresa with
      | none => simp [Parte.quadro, he]
      | some e =>
          simp [Parte.quadro, he, filterMap_update _ _ (tidy.fora_leiloes leilao he),
            filterMap_update _ _ (tidy.fora_emissoes emissao he)]
    · exact bind_update_other leilao atual
    · exact bind_update_other emissao emissaoAtual

theorem Fiel.abre_leilao (h : p.Fiel c q) (ref : Nat) (x : Leilao R) (at' : p.leilao ref = some x)
    (fora : ∀ e, p.empresa = some e → ref ∉ e.historicoLeiloes) :
    Fiel c { q with leilao := some x } { p with leilaoAtual := some ref } := by
  obtain ⟨⟨leiloes, emissoes, atual, emissaoAtual, aberto, aberta⟩, rfl⟩ := h
  refine ⟨⟨leiloes, emissoes, ?_, emissaoAtual, ?_, aberta⟩, ?_⟩
  · intro other now
    cases now
    exact Option.isSome_iff_exists.2 ⟨x, at'⟩
  · intro other e now he
    cases now
    exact fora e he
  · simp [Parte.quadro, at']

theorem Fiel.abre_emissao (h : p.Fiel c q) (ref : Nat) (x : Emissao R)
    (at' : p.emissao ref = some x)
    (fora : ∀ e, p.empresa = some e → ref ∉ e.historicoEmissoes) :
    Fiel c { q with emissao := some x } { p with emissaoAtual := some ref } := by
  obtain ⟨⟨leiloes, emissoes, atual, emissaoAtual, aberto, aberta⟩, rfl⟩ := h
  refine ⟨⟨leiloes, emissoes, atual, ?_, aberto, ?_⟩, ?_⟩
  · intro other now
    cases now
    exact Option.isSome_iff_exists.2 ⟨x, at'⟩
  · intro other e now he
    cases now
    exact fora e he
  · simp [Parte.quadro, at']

theorem Fiel.fecha_leilao (h : p.Fiel c q) :
    Fiel c { q with leilao := none } { p with leilaoAtual := none } := by
  obtain ⟨⟨leiloes, emissoes, atual, emissaoAtual, aberto, aberta⟩, rfl⟩ := h
  exact ⟨⟨leiloes, emissoes, by simp, emissaoAtual, by simp, aberta⟩, rfl⟩

theorem Fiel.fecha_emissao (h : p.Fiel c q) :
    Fiel c { q with emissao := none } { p with emissaoAtual := none } := by
  obtain ⟨⟨leiloes, emissoes, atual, emissaoAtual, aberto, aberta⟩, rfl⟩ := h
  exact ⟨⟨leiloes, emissoes, atual, by simp, aberto, by simp⟩, rfl⟩

/-- Nobody sees the auction that a settlement thread has taken. -/
theorem Fiel.guarda_leilao (h : p.Fiel c q) (closed : p.leilaoAtual = none)
    (fora : ∀ e, p.empresa = some e → ref ∉ e.historicoLeiloes) (x : Leilao R) :
    Fiel c q { p with leilao := Function.update p.leilao ref (some x) } := by
  obtain ⟨⟨leiloes, emissoes, atual, emissaoAtual, aberto, aberta⟩, rfl⟩ := h
  refine ⟨⟨?_, emissoes, ?_, emissaoAtual, aberto, aberta⟩, ?_⟩
  · intro e he other old
    exact isSome_update _ _ (leiloes e he other old)
  · intro other now
    exact isSome_update _ _ (atual other now)
  · ext1 <;> try rfl
    · cases he : p.empresa with
      | none => simp [Parte.quadro, he]
      | some e => simp [Parte.quadro, he, filterMap_update _ _ (fora e he)]
    · simp [Parte.quadro, closed]

theorem Fiel.guarda_emissao (h : p.Fiel c q) (closed : p.emissaoAtual = none)
    (fora : ∀ e, p.empresa = some e → ref ∉ e.historicoEmissoes) (x : Emissao R) :
    Fiel c q { p with emissao := Function.update p.emissao ref (some x) } := by
  obtain ⟨⟨leiloes, emissoes, atual, emissaoAtual, aberto, aberta⟩, rfl⟩ := h
  refine ⟨⟨leiloes, ?_, atual, ?_, aberto, aberta⟩, ?_⟩
  · intro e he other old
    exact isSome_update _ _ (emissoes e he other old)
  · intro other now
    exact isSome_update _ _ (emissaoAtual other now)
  · ext1 <;> try rfl
    · cases he : p.empresa with
      | none => simp [Parte.quadro, he]
      | some e => simp [Parte.quadro, he, filterMap_update _ _ (fora e he)]
    · simp [Parte.quadro, closed]

theorem Fiel.arquiva_leilao (h : p.Fiel c q) (closed : p.leilaoAtual = none) {e : Empresa}
    (he : p.empresa = some e) {x : Leilao R} (at' : p.leilao ref = some x)
    {empresa : Exchange.Empresa R} (now : q.empresa = some empresa) :
    Fiel c { q with empresa := some (empresa.comLeilao x) }
      { p with empresa := some { e with historicoLeiloes := e.historicoLeiloes ++ [ref] } } := by
  rw [h.empresa he, Option.some.injEq] at now
  obtain ⟨⟨leiloes, emissoes, atual, emissaoAtual, aberto, aberta⟩, rfl⟩ := h
  subst now
  refine ⟨⟨?_, ?_, atual, emissaoAtual, ?_, ?_⟩, ?_⟩
  · intro e' he' other old
    cases he'
    cases List.mem_append.1 old with
    | inl before => exact leiloes e he other before
    | inr last =>
        rw [List.mem_singleton] at last
        subst last
        exact Option.isSome_iff_exists.2 ⟨x, at'⟩
  · intro e' he' other old
    cases he'
    exact emissoes e he other old
  · intro other e' now
    rw [closed] at now
    cases now
  · intro other e' now he'
    cases he'
    exact aberta other e now he
  · simp [Parte.quadro, at', Empresa.comLeilao]

theorem Fiel.arquiva_emissao (h : p.Fiel c q) (closed : p.emissaoAtual = none) {e : Empresa}
    (he : p.empresa = some e) {x : Emissao R} (at' : p.emissao ref = some x)
    {empresa : Exchange.Empresa R} (now : q.empresa = some empresa) :
    Fiel c { q with empresa := some (empresa.comEmissao x) }
      { p with empresa := some { e with historicoEmissoes := e.historicoEmissoes ++ [ref] } } := by
  rw [h.empresa he, Option.some.injEq] at now
  obtain ⟨⟨leiloes, emissoes, atual, emissaoAtual, aberto, aberta⟩, rfl⟩ := h
  subst now
  refine ⟨⟨?_, ?_, atual, emissaoAtual, ?_, ?_⟩, ?_⟩
  · intro e' he' other old
    cases he'
    exact leiloes e he other old
  · intro e' he' other old
    cases he'
    cases List.mem_append.1 old with
    | inl before => exact emissoes e he other before
    | inr last =>
        rw [List.mem_singleton] at last
        subst last
        exact Option.isSome_iff_exists.2 ⟨x, at'⟩
  · intro other e' now he'
    cases he'
    exact aberto other e now he
  · intro other e' now
    rw [closed] at now
    cases now
  · simp [Parte.quadro, at', Empresa.comEmissao]

theorem Fiel.corrige_emissao {empresa : Exchange.Empresa R} {e : Empresa} {old : List Nat}
    {x : Emissao R} (h : p.Fiel c { q with empresa := some (empresa.comEmissao x) })
    (closed : p.emissaoAtual = none) (he : p.empresa = some e)
    (last : e.historicoEmissoes = old ++ [ref]) (fora : ref ∉ old) (at' : p.emissao ref = some x)
    (x' : Emissao R) :
    Fiel c { q with empresa := some (empresa.comEmissao x') }
      { p with emissao := Function.update p.emissao ref (some x') } := by
  have before := h.empresa he
  obtain ⟨⟨leiloes, emissoes, atual, emissaoAtual, aberto, aberta⟩, same⟩ := h
  refine ⟨⟨leiloes, ?_, atual, ?_, aberto, aberta⟩, ?_⟩
  · intro e' he' other old'
    exact isSome_update _ _ (emissoes e' he' other old')
  · intro other now
    rw [closed] at now
    cases now
  · have rest := congrArg (fun q : Quadro R => { q with empresa := none }) same
    have names : empresa.nome = c ∧
        empresa.historicoLeiloes = e.historicoLeiloes.filterMap p.leilao ∧
        empresa.historicoEmissoes = old.filterMap p.emissao := by
      rw [last, List.filterMap_append] at before
      simp only [Empresa.comEmissao, Option.some.injEq, Exchange.Empresa.mk.injEq] at before
      obtain ⟨nome, auctions, issues⟩ := before
      simp only [List.filterMap_cons, at', List.filterMap_nil] at issues
      exact ⟨nome, auctions, List.append_cancel_right issues⟩
    simp only [Parte.quadro] at rest ⊢
    rw [Quadro.mk.injEq] at rest ⊢
    refine ⟨?_, rest.2.1, ?_, rest.2.2.2⟩
    · obtain ⟨nome, auctions, issues⟩ := names
      simp [he, last, filterMap_update _ _ fora, Empresa.comEmissao, nome, auctions, issues]
    · simpa [closed] using rest.2.2.1

theorem Fiel.relata (h : p.Fiel c q) (g : Directory.Empresa R → Directory.Empresa R) :
    Fiel c (q.relata g) { p with registo := p.registo.map g } := by
  obtain ⟨⟨leiloes, emissoes, atual, emissaoAtual, aberto, aberta⟩, rfl⟩ := h
  exact ⟨⟨leiloes, emissoes, atual, emissaoAtual, aberto, aberta⟩, rfl⟩

theorem Fiel.inicia_leilao (h : p.Fiel c q) (nova : p.fioLeilao ref = none) (idL : Nat) :
    Fiel c { q with terminaLeiloes := insert ⟨c, idL, ref⟩ q.terminaLeiloes }
      { p with fioLeilao := Function.update p.fioLeilao ref (some ⟨c, idL, .remove⟩) } := by
  obtain ⟨⟨leiloes, emissoes, atual, emissaoAtual, aberto, aberta⟩, rfl⟩ := h
  refine ⟨⟨leiloes, emissoes, atual, emissaoAtual, aberto, aberta⟩, ?_⟩
  ext1 <;> try rfl
  ext ⟨d, n, other⟩
  by_cases here : other = ref
  · subst here
    simp [Parte.quadro, nova, eq_comm]
  · simp [Parte.quadro, here]

theorem Fiel.inicia_emissao (h : p.Fiel c q) (nova : p.fioEmissao ref = none) (idL : Nat) :
    Fiel c { q with terminaEmissoes := insert ⟨c, idL, ref⟩ q.terminaEmissoes }
      { p with fioEmissao := Function.update p.fioEmissao ref (some ⟨c, idL, .remove⟩) } := by
  obtain ⟨⟨leiloes, emissoes, atual, emissaoAtual, aberto, aberta⟩, rfl⟩ := h
  refine ⟨⟨leiloes, emissoes, atual, emissaoAtual, aberto, aberta⟩, ?_⟩
  ext1 <;> try rfl
  ext ⟨d, n, other⟩
  by_cases here : other = ref
  · subst here
    simp [Parte.quadro, nova, eq_comm]
  · simp [Parte.quadro, here]

theorem Fiel.segue_leilao (h : p.Fiel c q) {idL : Nat} {em em' : EmTerminaLeilao R}
    (at' : p.fioLeilao ref = some ⟨c, idL, em⟩) (ran : em' ≠ .remove) :
    Fiel c { q with terminaLeiloes := q.terminaLeiloes \ {⟨c, idL, ref⟩} }
      { p with fioLeilao := Function.update p.fioLeilao ref (some ⟨c, idL, em'⟩) } := by
  obtain ⟨⟨leiloes, emissoes, atual, emissaoAtual, aberto, aberta⟩, rfl⟩ := h
  refine ⟨⟨leiloes, emissoes, atual, emissaoAtual, aberto, aberta⟩, ?_⟩
  ext1 <;> try rfl
  ext ⟨d, n, other⟩
  by_cases here : other = ref
  · subst here
    simp [Parte.quadro, at', ran]
    grind
  · simp [Parte.quadro, here]

theorem Fiel.segue_emissao (h : p.Fiel c q) {idL : Nat} {em em' : EmTerminaEmissao R}
    (at' : p.fioEmissao ref = some ⟨c, idL, em⟩) (ran : em' ≠ .remove) :
    Fiel c { q with terminaEmissoes := q.terminaEmissoes \ {⟨c, idL, ref⟩} }
      { p with fioEmissao := Function.update p.fioEmissao ref (some ⟨c, idL, em'⟩) } := by
  obtain ⟨⟨leiloes, emissoes, atual, emissaoAtual, aberto, aberta⟩, rfl⟩ := h
  refine ⟨⟨leiloes, emissoes, atual, emissaoAtual, aberto, aberta⟩, ?_⟩
  ext1 <;> try rfl
  ext ⟨d, n, other⟩
  by_cases here : other = ref
  · subst here
    simp [Parte.quadro, at', ran]
    grind
  · simp [Parte.quadro, here]

end Efeitos

end Parte

/-! ### Updates of the memory -/

namespace Memoria

variable {dono : Nat → Option String} {m m' : Memoria R} {c : String} {ref : Nat}

theorem parte_leilao (dela : dono ref = some c) (x : Leilao R) :
    ({ m with leilao := Function.update m.leilao ref x } : Memoria R).parte dono c =
      { m.parte dono c with
        leilao := Function.update (m.parte dono c).leilao ref (some x) } := by
  simp [parte, some_update, proprio_update dela]

theorem parte_emissao (dela : dono ref = some c) (x : Emissao R) :
    ({ m with emissao := Function.update m.emissao ref x } : Memoria R).parte dono c =
      { m.parte dono c with
        emissao := Function.update (m.parte dono c).emissao ref (some x) } := by
  simp [parte, some_update, proprio_update dela]

theorem parte_leiloes (aberto : Option Nat) :
    ({ m with leiloes := Function.update m.leiloes c aberto } : Memoria R).parte dono c =
      { m.parte dono c with leilaoAtual := aberto } := by
  simp [parte]

theorem parte_emissoes (aberta : Option Nat) :
    ({ m with emissoes := Function.update m.emissoes c aberta } : Memoria R).parte dono c =
      { m.parte dono c with emissaoAtual := aberta } := by
  simp [parte]

theorem parte_empresas (empresaObj : Option Empresa) :
    ({ m with empresas := Function.update m.empresas c empresaObj } : Memoria R).parte dono c =
      { m.parte dono c with empresa := empresaObj } := by
  simp [parte]

theorem parte_terminaLeiloes (dela : dono ref = some c) (fio : Fio (EmTerminaLeilao R)) :
    (m.poeTerminaLeilao ref fio).parte dono c =
      { m.parte dono c with
        fioLeilao := Function.update (m.parte dono c).fioLeilao ref (some fio) } := by
  simp [parte, poeTerminaLeilao, proprio_update dela]

theorem parte_terminaEmissoes (dela : dono ref = some c) (fio : Fio (EmTerminaEmissao R)) :
    (m.poeTerminaEmissao ref fio).parte dono c =
      { m.parte dono c with
        fioEmissao := Function.update (m.parte dono c).fioEmissao ref (some fio) } := by
  simp [parte, poeTerminaEmissao, proprio_update dela]

theorem parte_chama {handler : Directory.Handler R Nat}
    {g : Directory.Empresa R → Directory.Empresa R}
    (h : Java.after handler m.diretorio =
      Function.update m.diretorio c ((m.diretorio c).map g)) :
    (m.chama handler).parte dono c =
      { m.parte dono c with registo := (m.parte dono c).registo.map g } := by
  simp [parte, chama, h]

theorem parte_leilao_eq {x : Leilao R} :
    (m.parte dono c).leilao ref = some x ↔ dono ref = some c ∧ m.leilao ref = x := by
  simp [parte, proprio_eq_some]

theorem parte_emissao_eq {x : Emissao R} :
    (m.parte dono c).emissao ref = some x ↔ dono ref = some c ∧ m.emissao ref = x := by
  simp [parte, proprio_eq_some]

/-- A step about `c` that takes no reference leaves the others as they were. -/
theorem Guardada.so (g : m.Guardada dono) (novaRef : m'.novaRef = m.novaRef)
    (empresas : ∀ d, d ≠ c → m'.empresas d = m.empresas d)
    (leiloes : ∀ d, d ≠ c → m'.leiloes d = m.leiloes d)
    (emissoes : ∀ d, d ≠ c → m'.emissoes d = m.emissoes d)
    (diretorio : ∀ d, d ≠ c → m'.diretorio d = m.diretorio d)
    (leilao : ∀ ref, dono ref ≠ some c → m'.leilao ref = m.leilao ref)
    (emissao : ∀ ref, dono ref ≠ some c → m'.emissao ref = m.emissao ref)
    (fiosLeilao : ∀ ref, m'.terminaLeiloes ref ≠ m.terminaLeiloes ref →
      dono ref = some c ∧ ∃ idL em, m'.terminaLeiloes ref = some ⟨c, idL, em⟩)
    (fiosEmissao : ∀ ref, m'.terminaEmissoes ref ≠ m.terminaEmissoes ref →
      dono ref = some c ∧ ∃ idL em, m'.terminaEmissoes ref = some ⟨c, idL, em⟩) :
    m.So c dono dono m' := by
  refine ⟨fun d outra => ?_, ⟨?_, ?_, ?_⟩⟩
  · have hers {ref : Nat} (dela : dono ref = some d) : dono ref ≠ some c := by
      rw [dela]
      simpa using outra
    ext1
    · exact empresas d outra
    · exact leiloes d outra
    · exact emissoes d outra
    · funext ref
      by_cases dela : dono ref = some d
      · simp [parte, proprio, dela, leilao ref (hers dela)]
      · simp [parte, proprio, dela]
    · funext ref
      by_cases dela : dono ref = some d
      · simp [parte, proprio, dela, emissao ref (hers dela)]
      · simp [parte, proprio, dela]
    · funext ref
      by_cases dela : dono ref = some d
      · have same : m'.terminaLeiloes ref = m.terminaLeiloes ref := by
          by_contra differs
          exact hers dela (fiosLeilao ref differs).1
        simp [parte, proprio, same]
      · simp [parte, proprio, dela]
    · funext ref
      by_cases dela : dono ref = some d
      · have same : m'.terminaEmissoes ref = m.terminaEmissoes ref := by
          by_contra differs
          exact hers dela (fiosEmissao ref differs).1
        simp [parte, proprio, same]
      · simp [parte, proprio, dela]
    · exact diretorio d outra
  · intro ref taken
    rw [novaRef]
    exact g.tomadas ref taken
  · intro ref fio there
    by_cases same : m'.terminaLeiloes ref = m.terminaLeiloes ref
    · exact g.leiloes ref fio (same ▸ there)
    · obtain ⟨dela, idL, em, now⟩ := fiosLeilao ref same
      rw [there] at now
      cases now
      exact dela
  · intro ref fio there
    by_cases same : m'.terminaEmissoes ref = m.terminaEmissoes ref
    · exact g.emissoes ref fio (same ▸ there)
    · obtain ⟨dela, idL, em, now⟩ := fiosEmissao ref same
      rw [there] at now
      cases now
      exact dela

theorem So.trans {dono' dono'' : Nat → Option String} {m'' : Memoria R} (h : m.So c dono dono' m')
    (h' : m'.So c dono' dono'' m'') : m.So c dono dono'' m'' :=
  ⟨fun d outra => (h'.alheias d outra).trans (h.alheias d outra), h'.guardada⟩

theorem Guardada.so_refl (g : m.Guardada dono) : m.So c dono dono m := ⟨fun _ _ => rfl, g⟩

theorem Guardada.em (g : m.Guardada dono) (ponto : Ponto R) : (m.em ponto).Guardada dono :=
  ⟨g.tomadas, g.leiloes, g.emissoes⟩

theorem Guardada.so_em (g : m.Guardada dono) (ponto : Ponto R) : m.So c dono dono (m.em ponto) :=
  ⟨fun _ _ => rfl, g.em ponto⟩

theorem Guardada.so_leilao (g : m.Guardada dono) (dela : dono ref = some c) (x : Leilao R) :
    m.So c dono dono { m with leilao := Function.update m.leilao ref x } := by
  refine g.so rfl ?_ ?_ ?_ ?_ ?_ ?_ ?_ ?_ <;> try simp
  intro other alheia
  rw [Function.update_of_ne]
  rintro rfl
  exact alheia dela

theorem Guardada.so_emissao (g : m.Guardada dono) (dela : dono ref = some c) (x : Emissao R) :
    m.So c dono dono { m with emissao := Function.update m.emissao ref x } := by
  refine g.so rfl ?_ ?_ ?_ ?_ ?_ ?_ ?_ ?_ <;> try simp
  intro other alheia
  rw [Function.update_of_ne]
  rintro rfl
  exact alheia dela

theorem Guardada.so_leiloes (g : m.Guardada dono) (aberto : Option Nat) :
    m.So c dono dono { m with leiloes := Function.update m.leiloes c aberto } := by
  refine g.so rfl ?_ ?_ ?_ ?_ ?_ ?_ ?_ ?_ <;> try simp
  intro d outra
  rw [Function.update_of_ne outra]

theorem Guardada.so_emissoes (g : m.Guardada dono) (aberta : Option Nat) :
    m.So c dono dono { m with emissoes := Function.update m.emissoes c aberta } := by
  refine g.so rfl ?_ ?_ ?_ ?_ ?_ ?_ ?_ ?_ <;> try simp
  intro d outra
  rw [Function.update_of_ne outra]

theorem Guardada.so_empresas (g : m.Guardada dono) (empresaObj : Option Empresa) :
    m.So c dono dono { m with empresas := Function.update m.empresas c empresaObj } := by
  refine g.so rfl ?_ ?_ ?_ ?_ ?_ ?_ ?_ ?_ <;> try simp
  intro d outra
  rw [Function.update_of_ne outra]

theorem Guardada.so_chama (g : m.Guardada dono) {handler : Directory.Handler R Nat}
    {f : Directory.Empresa R → Directory.Empresa R}
    (h : Java.after handler m.diretorio =
      Function.update m.diretorio c ((m.diretorio c).map f)) :
    m.So c dono dono (m.chama handler) := by
  refine g.so rfl ?_ ?_ ?_ ?_ ?_ ?_ ?_ ?_ <;> try simp [chama]
  intro d outra
  rw [h, Function.update_of_ne outra]

theorem Guardada.so_terminaLeilao (g : m.Guardada dono) (dela : dono ref = some c) (idL : Nat)
    (em : EmTerminaLeilao R) : m.So c dono dono (m.poeTerminaLeilao ref ⟨c, idL, em⟩) := by
  refine g.so rfl ?_ ?_ ?_ ?_ ?_ ?_ ?_ ?_ <;> try simp [poeTerminaLeilao]
  intro other differs
  by_cases here : other = ref
  · subst here
    exact ⟨dela, idL, em, by simp⟩
  · rw [Function.update_of_ne here] at differs
    exact absurd rfl differs

theorem Guardada.so_terminaEmissao (g : m.Guardada dono) (dela : dono ref = some c) (idL : Nat)
    (em : EmTerminaEmissao R) : m.So c dono dono (m.poeTerminaEmissao ref ⟨c, idL, em⟩) := by
  refine g.so rfl ?_ ?_ ?_ ?_ ?_ ?_ ?_ ?_ <;> try simp [poeTerminaEmissao]
  intro other differs
  by_cases here : other = ref
  · subst here
    exact ⟨dela, idL, em, by simp⟩
  · rw [Function.update_of_ne here] at differs
    exact absurd rfl differs

/-- The next reference is given to `c`, with whatever is under it in the two heaps. -/
theorem Guardada.so_ganha (g : m.Guardada dono) (c : String) :
    m.So c dono (Function.update dono m.novaRef (some c)) { m with novaRef := m.novaRef + 1 } := by
  refine ⟨fun d outra => ?_, ⟨?_, ?_, ?_⟩⟩
  · simp [parte, proprio_dado_outra g.nova outra]
  · intro ref taken
    by_cases here : ref = m.novaRef
    · subst here
      exact Nat.lt_succ_self _
    · rw [Function.update_of_ne here] at taken
      exact Nat.lt_succ_of_lt (g.tomadas ref taken)
  · intro ref fio there
    have mine := g.leiloes ref fio there
    have differs : ref ≠ m.novaRef := by
      rintro rfl
      simp [g.nova] at mine
    rw [Function.update_of_ne differs, mine]
  · intro ref fio there
    have mine := g.emissoes ref fio there
    have differs : ref ≠ m.novaRef := by
      rintro rfl
      simp [g.nova] at mine
    rw [Function.update_of_ne differs, mine]

theorem Guardada.parte_ganha (g : m.Guardada dono) (c : String) :
    ({ m with novaRef := m.novaRef + 1 } : Memoria R).parte
        (Function.update dono m.novaRef (some c)) c =
      { m.parte dono c with
        leilao := Function.update (m.parte dono c).leilao m.novaRef (some (m.leilao m.novaRef))
        emissao :=
          Function.update (m.parte dono c).emissao m.novaRef (some (m.emissao m.novaRef)) } := by
  have leiloes : m.terminaLeiloes m.novaRef = none := by
    cases there : m.terminaLeiloes m.novaRef with
    | none => rfl
    | some fio => simpa [g.nova] using g.leiloes _ _ there
  have emissoes : m.terminaEmissoes m.novaRef = none := by
    cases there : m.terminaEmissoes m.novaRef with
    | none => rfl
    | some fio => simpa [g.nova] using g.emissoes _ _ there
  have unseen {α : Type} (f : Nat → Option α) : proprio dono c f m.novaRef = none := by
    simp [proprio, g.nova]
  ext1 <;> try rfl
  · simp [parte, proprio_dado]
  · simp [parte, proprio_dado]
  · simp only [parte, proprio_dado, leiloes]
    rw [← unseen m.terminaLeiloes, Function.update_eq_self]
  · simp only [parte, proprio_dado, emissoes]
    rw [← unseen m.terminaEmissoes, Function.update_eq_self]

variable {q : Quadro R}

theorem Guardada.reporta (g : m.Guardada dono) (h : (m.parte dono c).Fiel c q)
    {handler : Directory.Handler R Nat} {f : Directory.Empresa R → Directory.Empresa R}
    (call : Java.after handler m.diretorio =
      Function.update m.diretorio c ((m.diretorio c).map f)) :
    m.So c dono dono (m.chama handler) ∧
      ((m.chama handler).parte dono c).Fiel c (q.relata f) := by
  refine ⟨g.so_chama call, ?_⟩
  rw [parte_chama call]
  exact h.relata f

/-- Nobody sees what is written under the next reference. -/
theorem Guardada.parte_rascunho (g : m.Guardada dono) (x : Leilao R) (d : String) :
    ({ m with leilao := Function.update m.leilao m.novaRef x } : Memoria R).parte dono d =
      m.parte dono d := by
  have unseen : dono m.novaRef ≠ some d := by simp [g.nova]
  simp [parte, some_update, proprio_update_outra unseen]

theorem Guardada.parte_rascunho_emissao (g : m.Guardada dono) (x : Emissao R) (d : String) :
    ({ m with emissao := Function.update m.emissao m.novaRef x } : Memoria R).parte dono d =
      m.parte dono d := by
  have unseen : dono m.novaRef ≠ some d := by simp [g.nova]
  simp [parte, some_update, proprio_update_outra unseen]

theorem Guardada.parte_nova (g : m.Guardada dono) (c : String) :
    (m.parte dono c).leilao m.novaRef = none ∧ (m.parte dono c).emissao m.novaRef = none := by
  simp [parte, proprio, g.nova]

theorem Guardada.abre_leilao (g : m.Guardada dono) (h : (m.parte dono c).Fiel c q) (x : Leilao R) :
    let dono' := Function.update dono m.novaRef (some c)
    let m' : Memoria R := { m with
      leilao := Function.update m.leilao m.novaRef x
      leiloes := Function.update m.leiloes c (some m.novaRef)
      novaRef := m.novaRef + 1 }
    m.So c dono dono' m' ∧ (m'.parte dono' c).Fiel c { q with leilao := some x } ∧
      (m'.parte dono' c).fioLeilao m.novaRef = none := by
  intro dono' m'
  let escrita : Memoria R := { m with leilao := Function.update m.leilao m.novaRef x }
  have g' : escrita.Guardada dono := ⟨g.tomadas, g.leiloes, g.emissoes⟩
  have written : m.So c dono dono escrita := ⟨fun d _ => g.parte_rascunho x d, g'⟩
  have taken := g'.so_ganha c
  obtain ⟨leilao, emissao⟩ := g.parte_nova c
  have fiel : ((m'.parte dono' c)).Fiel c { q with leilao := some x } := by
    have given := h.ganha leilao emissao x (m.emissao m.novaRef)
    have opened := given.abre_leilao m.novaRef x (by simp)
      fun e he => h.arrumada.fora_leiloes leilao he
    have after : m'.parte dono' c = { ({ escrita with novaRef := m.novaRef + 1 } : Memoria R).parte
        dono' c with leilaoAtual := some m.novaRef } := by
      simp [m', escrita, parte]
    rw [after, g'.parte_ganha c, g.parte_rascunho x c]
    simpa [escrita] using opened
  refine ⟨(written.trans taken).trans (taken.guardada.so_leiloes _), fiel, ?_⟩
  cases there : m.terminaLeiloes m.novaRef with
  | none => simp [m', parte, proprio, there]
  | some fio => simpa [g.nova] using g.leiloes _ _ there

theorem Guardada.abre_emissao (g : m.Guardada dono) (h : (m.parte dono c).Fiel c q)
    (x : Emissao R) :
    let dono' := Function.update dono m.novaRef (some c)
    let m' : Memoria R := { m with
      emissao := Function.update m.emissao m.novaRef x
      emissoes := Function.update m.emissoes c (some m.novaRef)
      novaRef := m.novaRef + 1 }
    m.So c dono dono' m' ∧ (m'.parte dono' c).Fiel c { q with emissao := some x } ∧
      (m'.parte dono' c).fioEmissao m.novaRef = none := by
  intro dono' m'
  let escrita : Memoria R := { m with emissao := Function.update m.emissao m.novaRef x }
  have g' : escrita.Guardada dono := ⟨g.tomadas, g.leiloes, g.emissoes⟩
  have written : m.So c dono dono escrita := ⟨fun d _ => g.parte_rascunho_emissao x d, g'⟩
  have taken := g'.so_ganha c
  obtain ⟨leilao, emissao⟩ := g.parte_nova c
  have fiel : ((m'.parte dono' c)).Fiel c { q with emissao := some x } := by
    have given := h.ganha leilao emissao (m.leilao m.novaRef) x
    have opened := given.abre_emissao m.novaRef x (by simp)
      fun e he => h.arrumada.fora_emissoes emissao he
    have after : m'.parte dono' c = { ({ escrita with novaRef := m.novaRef + 1 } : Memoria R).parte
        dono' c with emissaoAtual := some m.novaRef } := by
      simp [m', escrita, parte]
    rw [after, g'.parte_ganha c, g.parte_rascunho_emissao x c]
    simpa [escrita] using opened
  refine ⟨(written.trans taken).trans (taken.guardada.so_emissoes _), fiel, ?_⟩
  cases there : m.terminaEmissoes m.novaRef with
  | none => simp [m', parte, proprio, there]
  | some fio => simpa [g.nova] using g.emissoes _ _ there

end Memoria

end PeerLanding.Threads
