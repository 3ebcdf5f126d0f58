import PeerLanding.SettlementOutlines
import PeerLanding.Simulation

/-! The exchange of `Exchange.Steps`, where a request or a settlement is one step, against the
threads, where every operation is one. While no two of them about one company overlap, the threads
do what the one-step programs do, one after another, each at its last operation. -/

namespace PeerLanding.Threads

open Exchange

variable {R : Type}

/-! ### Which companies are in the middle of something -/

def Ponto.empresa : Ponto R → Option String
  | .licitar empresa _ _ _ _ => some empresa
  | .emprestimo empresa _ _ _ => some empresa
  | .emissao empresa _ _ => some empresa
  | .leilao empresa _ _ _ => some empresa
  | _ => none

/-- The company of the request in progress, once it has done its first operation. -/
def Ponto.meio : Ponto R → Option String
  | .licitar _ _ _ _ .get => none
  | .emprestimo _ _ _ .get => none
  | .emissao _ _ .get => none
  | .leilao _ _ _ .get => none
  | ponto => ponto.empresa

def EmTerminaLeilao.meio : EmTerminaLeilao R → Bool
  | .remove => false
  | .fim => false
  | _ => true

def EmTerminaEmissao.meio : EmTerminaEmissao R → Bool
  | .remove => false
  | .fim => false
  | _ => true

def EmTerminaLeilao.acabou : EmTerminaLeilao R → Bool
  | .fim => true
  | _ => false

def EmTerminaEmissao.acabou : EmTerminaEmissao R → Bool
  | .fim => true
  | _ => false

/-- The settlement is about `c` and half done. -/
def Fio.ocupa {Em : Type} (meio : Em → Bool) (c : String) : Option (Fio Em) → Bool
  | none => false
  | some fio => decide (fio.empresa = c) && meio fio.em

namespace Memoria

def SemLeiloes (m : Memoria R) (c : String) (exceto : Option Nat) : Prop :=
  ∀ ref < m.novaRef, exceto ≠ some ref →
    Fio.ocupa EmTerminaLeilao.meio c (m.terminaLeiloes ref) = false

def SemEmissoes (m : Memoria R) (c : String) (exceto : Option Nat) : Prop :=
  ∀ ref < m.novaRef, exceto ≠ some ref →
    Fio.ocupa EmTerminaEmissao.meio c (m.terminaEmissoes ref) = false

/-- The step is about a company that nothing else is in the middle of. -/
def Isolado (m : Memoria R) : Passo R → Prop
  | .recv _ => True
  | .exchange _ _ => ∀ c ∈ m.exchange.empresa, m.SemLeiloes c none ∧ m.SemEmissoes c none
  | .terminaLeilao ref => ∀ fio ∈ m.terminaLeiloes ref, m.exchange.meio ≠ some fio.empresa ∧
      m.SemLeiloes fio.empresa (some ref) ∧ m.SemEmissoes fio.empresa none
  | .terminaEmissao ref => ∀ fio ∈ m.terminaEmissoes ref, m.exchange.meio ≠ some fio.empresa ∧
      m.SemLeiloes fio.empresa none ∧ m.SemEmissoes fio.empresa (some ref)

instance (m : Memoria R) (c : String) (exceto : Option Nat) : Decidable (m.SemLeiloes c exceto) :=
  inferInstanceAs (Decidable (∀ ref < m.novaRef, _))

instance (m : Memoria R) (c : String) (exceto : Option Nat) :
    Decidable (m.SemEmissoes c exceto) :=
  inferInstanceAs (Decidable (∀ ref < m.novaRef, _))

instance (m : Memoria R) : DecidablePred m.Isolado
  | .recv _ => inferInstanceAs (Decidable True)
  | .exchange _ _ => inferInstanceAs (Decidable (∀ c ∈ m.exchange.empresa, _))
  | .terminaLeilao ref => inferInstanceAs (Decidable (∀ fio ∈ m.terminaLeiloes ref, _))
  | .terminaEmissao ref => inferInstanceAs (Decidable (∀ fio ∈ m.terminaEmissoes ref, _))

end Memoria

/-! ### What is done -/

/-- A request that was decided, or a settlement that ended. -/
inductive Feito (R : Type) where
  | pedido (p : Pedido R) (r : Resultado)
  | terminaLeilao (thread : TerminaLeilao) (r : Resultado)
  | terminaEmissao (thread : TerminaEmissao) (r : Resultado)
  deriving DecidableEq

def feito (e : Transicao R) : Feito R :=
  match e.label with
  | .pedido _ p => .pedido p e.result
  | .terminaLeilao _ thread => .terminaLeilao thread e.result
  | .terminaEmissao _ thread => .terminaEmissao thread e.result

/-- What the operation completes. -/
def Lance.feito (e : Lance R) : Option (Feito R) :=
  match e.label with
  | .recv p => e.post.exchange.decisao.map (.pedido p)
  | .exchange _ _ =>
      match e.pre.exchange.pedido with
      | none => none
      | some p => (e.post.exchange.decisao <|> e.result).map (.pedido p)
  | .terminaLeilao ref =>
      match e.post.terminaLeiloes ref with
      | some ⟨empresa, idL, em⟩ =>
          if em.acabou then some (.terminaLeilao ⟨empresa, idL, ref⟩ (e.result.getD .fim))
          else none
      | none => none
  | .terminaEmissao ref =>
      match e.post.terminaEmissoes ref with
      | some ⟨empresa, idL, em⟩ =>
          if em.acabou then some (.terminaEmissao ⟨empresa, idL, ref⟩ (e.result.getD .fim))
          else none
      | none => none

/-- The calls of the step get through, and its clocks are among those of `K` and `K'`. -/
def Entregue (K K' : LocalDateTime → Prop) (e : Transicao R) : Prop :=
  match e.label with
  | .pedido amb _ => amb.entregue = true ∧ K amb.agora ∧ K' amb.agoraDiretorio
  | .terminaLeilao amb _ => amb.entregue = true ∧ K amb.agora ∧ K' amb.agoraDiretorio
  | .terminaEmissao amb _ => amb.entregue = true ∧ K amb.agora ∧ K' amb.agoraDiretorio

/-! ### The two systems side by side -/

section Casa

variable (K : LocalDateTime → Prop) (c : String)

def Parte.SemLeiloes (p : Parte R) (exceto : Option Nat) : Prop :=
  ∀ ref fio, exceto ≠ some ref → p.fioLeilao ref = some fio → fio.em.meio = false

def Parte.SemEmissoes (p : Parte R) (exceto : Option Nat) : Prop :=
  ∀ ref fio, exceto ≠ some ref → p.fioEmissao ref = some fio → fio.em.meio = false

variable [JavaFloat R]

/-- How the part of a company in the memory stands to the company in the other system: nothing is
half done and they are the same, or one request or one settlement is, and its outline holds. -/
inductive Casa (ponto : Ponto R) (p : Parte R) (q : Quadro R) (n : Nat) : Prop
  | livre (fora : ponto.meio ≠ some c) (leiloes : p.SemLeiloes none) (emissoes : p.SemEmissoes none)
      (fiel : p.Fiel c q)
  | pedido (dentro : ponto.meio = some c) (leiloes : p.SemLeiloes none)
      (emissoes : p.SemEmissoes none) (esboco : ponto.Esboco K c n p q)
  | terminaLeilao {ref idL : Nat} {em : EmTerminaLeilao R} (fora : ponto.meio ≠ some c)
      (leiloes : p.SemLeiloes (some ref)) (emissoes : p.SemEmissoes none)
      (at' : p.fioLeilao ref = some ⟨c, idL, em⟩) (meio : em.meio = true)
      (por : ⟨c, idL, ref⟩ ∈ q.terminaLeiloes) (esboco : em.Esboco c idL p q ref)
  | terminaEmissao {ref idL : Nat} {em : EmTerminaEmissao R} (fora : ponto.meio ≠ some c)
      (leiloes : p.SemLeiloes none) (emissoes : p.SemEmissoes (some ref))
      (at' : p.fioEmissao ref = some ⟨c, idL, em⟩) (meio : em.meio = true)
      (por : ⟨c, idL, ref⟩ ∈ q.terminaEmissoes) (esboco : em.Esboco c idL p q ref)

/-- The memory `m` has done what the other system has, but for what is half done. -/
structure Serie (dono : Nat → Option String) (m : Memoria R) (s : Sistema R) : Prop where
  guardada : m.Guardada dono
  numerados : s.Numerados
  vivo : s.vivo = true ↔ m.exchange ≠ .fim
  refs : m.novaRef = s.novaRef + m.exchange.criados
  casa : ∀ c, Casa K c m.exchange (m.parte dono c) (s.quadro c) s.novaRef

end Casa

section Passos

variable {K : LocalDateTime → Prop} {c : String} {ponto ponto' : Ponto R} {p : Parte R}
  {q : Quadro R} {n n' : Nat} {dono dono' : Nat → Option String} {m m' : Memoria R}
  {exceto exceto' : Option Nat}

theorem Memoria.SemLeiloes.parte (h : m.SemLeiloes c exceto) (g : m.Guardada dono) :
    (m.parte dono c).SemLeiloes exceto := by
  intro ref fio other there
  obtain ⟨dela, there⟩ := proprio_eq_some.1 there
  have mine := g.leiloes ref fio there
  rw [dela, Option.some.injEq] at mine
  have quiet := h ref (g.tomadas ref (by simp [dela])) other
  rw [there] at quiet
  simpa [Fio.ocupa, ← mine] using quiet

theorem Memoria.SemEmissoes.parte (h : m.SemEmissoes c exceto) (g : m.Guardada dono) :
    (m.parte dono c).SemEmissoes exceto := by
  intro ref fio other there
  obtain ⟨dela, there⟩ := proprio_eq_some.1 there
  have mine := g.emissoes ref fio there
  rw [dela, Option.some.injEq] at mine
  have quiet := h ref (g.tomadas ref (by simp [dela])) other
  rw [there] at quiet
  simpa [Fio.ocupa, ← mine] using quiet

theorem Parte.SemLeiloes.mantem (h : (m.parte dono c).SemLeiloes exceto) (g : m.Guardada dono)
    (g' : m'.Guardada dono')
    (old : ∀ ref fio, exceto' ≠ some ref → m'.terminaLeiloes ref = some fio →
      (exceto ≠ some ref ∧ m.terminaLeiloes ref = some fio) ∨ fio.em.meio = false) :
    (m'.parte dono' c).SemLeiloes exceto' := by
  intro ref fio other there
  obtain ⟨dela, there⟩ := proprio_eq_some.1 there
  have mine := g'.leiloes ref fio there
  rcases old ref fio other there with ⟨other', before⟩ | quiet
  · have owned := g.leiloes ref fio before
    rw [← mine, dela] at owned
    exact h ref fio other' (proprio_eq_some.2 ⟨owned, before⟩)
  · exact quiet

theorem Parte.SemEmissoes.mantem (h : (m.parte dono c).SemEmissoes exceto) (g : m.Guardada dono)
    (g' : m'.Guardada dono')
    (old : ∀ ref fio, exceto' ≠ some ref → m'.terminaEmissoes ref = some fio →
      (exceto ≠ some ref ∧ m.terminaEmissoes ref = some fio) ∨ fio.em.meio = false) :
    (m'.parte dono' c).SemEmissoes exceto' := by
  intro ref fio other there
  obtain ⟨dela, there⟩ := proprio_eq_some.1 there
  have mine := g'.emissoes ref fio there
  rcases old ref fio other there with ⟨other', before⟩ | quiet
  · have owned := g.emissoes ref fio before
    rw [← mine, dela] at owned
    exact h ref fio other' (proprio_eq_some.2 ⟨owned, before⟩)
  · exact quiet

variable [JavaFloat R]

theorem Casa.alheia (h : Casa K c ponto p q n) (fora : ponto.meio ≠ some c)
    (fora' : ponto'.meio ≠ some c) : Casa K c ponto' p q n' := by
  cases h with
  | livre _ leiloes emissoes fiel => exact .livre fora' leiloes emissoes fiel
  | pedido dentro _ _ _ => exact absurd dentro fora
  | terminaLeilao _ leiloes emissoes at' meio por esboco =>
      exact .terminaLeilao fora' leiloes emissoes at' meio por esboco
  | terminaEmissao _ leiloes emissoes at' meio por esboco =>
      exact .terminaEmissao fora' leiloes emissoes at' meio por esboco

theorem Casa.esboco (h : Casa K c ponto p q n) (dela : ponto.empresa = some c)
    (leiloes : p.SemLeiloes none) (emissoes : p.SemEmissoes none) : ponto.Esboco K c n p q := by
  cases h with
  | livre fora _ _ fiel =>
      cases ponto with
      | licitar empresa investidor quantia juro em =>
          cases dela
          cases em with
          | get => exact ⟨rfl, fiel⟩
          | _ => exact absurd rfl fora
      | emprestimo empresa investidor quantia em =>
          cases dela
          cases em with
          | get => exact ⟨rfl, fiel⟩
          | _ => exact absurd rfl fora
      | emissao empresa quantia em =>
          cases dela
          cases em with
          | get => exact ⟨rfl, fiel⟩
          | _ => exact absurd rfl fora
      | leilao empresa quantia juro em =>
          cases dela
          cases em with
          | get => exact ⟨rfl, fiel⟩
          | _ => exact absurd rfl fora
      | _ => cases dela
  | pedido _ _ _ esboco => exact esboco
  | terminaLeilao _ _ _ at' meio _ _ =>
      have quiet := leiloes _ _ (by simp) at'
      rw [meio] at quiet
      cases quiet
  | terminaEmissao _ _ _ at' meio _ _ =>
      have quiet := emissoes _ _ (by simp) at'
      rw [meio] at quiet
      cases quiet

theorem Casa.of_esboco (h : ponto.Esboco K c n p q) (leiloes : p.SemLeiloes none)
    (emissoes : p.SemEmissoes none) : Casa K c ponto p q n := by
  by_cases dentro : ponto.meio = some c
  · exact .pedido dentro leiloes emissoes h
  · refine .livre dentro leiloes emissoes ?_
    cases ponto with
    | licitar empresa investidor quantia juro em =>
        obtain ⟨rfl, h⟩ := h
        cases em with
        | get => exact h
        | _ => exact absurd rfl dentro
    | emprestimo empresa investidor quantia em =>
        obtain ⟨rfl, h⟩ := h
        cases em with
        | get => exact h
        | _ => exact absurd rfl dentro
    | emissao empresa quantia em =>
        obtain ⟨rfl, h⟩ := h
        cases em with
        | get => exact h
        | _ => exact absurd rfl dentro
    | leilao empresa quantia juro em =>
        obtain ⟨rfl, h⟩ := h
        cases em with
        | get => exact h
        | _ => exact absurd rfl dentro
    | _ => exact h.elim

theorem Casa.esboco_leilao (h : Casa K c ponto p q n) (fora : ponto.meio ≠ some c) {ref idL : Nat}
    {em : EmTerminaLeilao R} (at' : p.fioLeilao ref = some ⟨c, idL, em⟩) (corre : em ≠ .fim)
    (leiloes : p.SemLeiloes (some ref)) (emissoes : p.SemEmissoes none) :
    ⟨c, idL, ref⟩ ∈ q.terminaLeiloes ∧ em.Esboco c idL p q ref := by
  cases h with
  | livre _ leiloes _ fiel =>
      have quiet := leiloes ref _ (by simp) at'
      cases em with
      | remove =>
          refine ⟨?_, fiel⟩
          rw [← fiel.quadro]
          exact ⟨rfl, at'⟩
      | fim => exact absurd rfl corre
      | _ => cases quiet
  | pedido dentro _ _ _ => exact absurd dentro fora
  | @terminaLeilao ref' idL' em' _ _ _ there meio por esboco =>
      by_cases same : ref' = ref
      · subst same
        rw [at', Option.some.injEq, Fio.mk.injEq] at there
        obtain ⟨_, rfl, rfl⟩ := there
        exact ⟨por, esboco⟩
      · have quiet := leiloes ref' _ (by simpa [eq_comm] using same) there
        rw [meio] at quiet
        cases quiet
  | terminaEmissao _ _ _ there meio _ _ =>
      have quiet := emissoes _ _ (by simp) there
      rw [meio] at quiet
      cases quiet

theorem Casa.esboco_emissao (h : Casa K c ponto p q n) (fora : ponto.meio ≠ some c) {ref idL : Nat}
    {em : EmTerminaEmissao R} (at' : p.fioEmissao ref = some ⟨c, idL, em⟩) (corre : em ≠ .fim)
    (leiloes : p.SemLeiloes none) (emissoes : p.SemEmissoes (some ref)) :
    ⟨c, idL, ref⟩ ∈ q.terminaEmissoes ∧ em.Esboco c idL p q ref := by
  cases h with
  | livre _ _ emissoes fiel =>
      have quiet := emissoes ref _ (by simp) at'
      cases em with
      | remove =>
          refine ⟨?_, fiel⟩
          rw [← fiel.quadro]
          exact ⟨rfl, at'⟩
      | fim => exact absurd rfl corre
      | _ => cases quiet
  | pedido dentro _ _ _ => exact absurd dentro fora
  | terminaLeilao _ _ _ there meio _ _ =>
      have quiet := leiloes _ _ (by simp) there
      rw [meio] at quiet
      cases quiet
  | @terminaEmissao ref' idL' em' _ _ _ there meio por esboco =>
      by_cases same : ref' = ref
      · subst same
        rw [at', Option.some.injEq, Fio.mk.injEq] at there
        obtain ⟨_, rfl, rfl⟩ := there
        exact ⟨por, esboco⟩
      · have quiet := emissoes ref' _ (by simpa [eq_comm] using same) there
        rw [meio] at quiet
        cases quiet

omit [JavaFloat R] in
theorem meio_of_empresa (h : ponto.empresa ≠ some c) : ponto.meio ≠ some c := by
  unfold Ponto.meio
  split
  · simp
  · simp
  · simp
  · simp
  · exact h

variable [Gson R] {agora agoraDiretorio : LocalDateTime} {r : Option Resultado}

/-- The threads that an operation of a request leaves: those there were, and at most one that has
not started. -/
def FiosDeAntes (m m' : Memoria R) : Prop :=
  (∀ ref fio, m'.terminaLeiloes ref = some fio →
    m.terminaLeiloes ref = some fio ∨ fio.em.meio = false) ∧
  ∀ ref fio, m'.terminaEmissoes ref = some fio →
    m.terminaEmissoes ref = some fio ∨ fio.em.meio = false

omit [JavaFloat R] [Gson R] in
theorem fiosDeAntes_of_eq (leiloes : m'.terminaLeiloes = m.terminaLeiloes)
    (emissoes : m'.terminaEmissoes = m.terminaEmissoes) : FiosDeAntes m m' := by
  refine ⟨?_, ?_⟩
  · intro ref fio there
    exact .inl (leiloes ▸ there)
  · intro ref fio there
    exact .inl (emissoes ▸ there)

section Fios

variable {investidor : String} {quantia : Int32} {juro : R}

theorem licitar_fios {em : EmLicitar} (op : licitar c investidor quantia juro m em = .ok m') :
    FiosDeAntes m m' := by
  cases em with
  | get =>
      simp only [licitar] at op
      split at op
      · split at op <;> cases op <;> exact fiosDeAntes_of_eq rfl rfl
      · cases op
        exact fiosDeAntes_of_eq rfl rfl
  | add ref =>
      cases op
      exact fiosDeAntes_of_eq rfl rfl
  | size ref idL =>
      cases op
      exact fiosDeAntes_of_eq rfl rfl
  | _ =>
      obtain ⟨_, _, op⟩ := ok_of_bind op
      cases op
      exact fiosDeAntes_of_eq rfl rfl

theorem emprestimo_fios {em : EmEmprestimo} (op : emprestimo c investidor quantia m em = .ok m') :
    FiosDeAntes m m' := by
  cases em with
  | get =>
      simp only [emprestimo] at op
      split at op
      · split at op <;> cases op <;> exact fiosDeAntes_of_eq rfl rfl
      · cases op
        exact fiosDeAntes_of_eq rfl rfl
  | add ref =>
      cases op
      exact fiosDeAntes_of_eq rfl rfl
  | size ref idL =>
      cases op
      exact fiosDeAntes_of_eq rfl rfl
  | _ =>
      obtain ⟨_, _, op⟩ := ok_of_bind op
      cases op
      exact fiosDeAntes_of_eq rfl rfl

omit [JavaFloat R] [Gson R] in
theorem update_eq_some {α : Type} {f : Nat → Option α} {ref other : Nat} {x y : α}
    (h : Function.update f ref (some x) other = some y) : f other = some y ∨ y = x := by
  by_cases here : other = ref
  · subst here
    rw [Function.update_self, Option.some.injEq] at h
    exact .inr h.symm
  · rw [Function.update_of_ne here] at h
    exact .inl h

theorem emissao_fios {em : EmEmissao R} (op : emissao c quantia agora m em = .ok m') :
    FiosDeAntes m m' := by
  cases em with
  | get =>
      simp only [emissao] at op
      split at op <;> cases op <;> exact fiosDeAntes_of_eq rfl rfl
  | size =>
      obtain ⟨_, _, op⟩ := ok_of_bind op
      split at op <;> cases op <;> exact fiosDeAntes_of_eq rfl rfl
  | lastElement =>
      obtain ⟨_, _, op⟩ := ok_of_bind op
      split at op
      · split at op <;> cases op <;> exact fiosDeAntes_of_eq rfl rfl
      · cases op
  | taxa em =>
      obtain ⟨_, _, op⟩ := ok_of_bind op
      obtain ⟨res, _, op⟩ := ok_of_bind op
      cases res <;> cases op <;> exact fiosDeAntes_of_eq rfl rfl
  | put taxaMaxima idL =>
      cases op
      exact fiosDeAntes_of_eq rfl rfl
  | thread taxaMaxima idL ref =>
      cases op
      refine ⟨fun _ _ there => .inl there, fun other fio there => ?_⟩
      rcases update_eq_some there with before | rfl
      · exact .inl before
      · exact .inr rfl
  | _ =>
      obtain ⟨_, _, op⟩ := ok_of_bind op
      cases op
      exact fiosDeAntes_of_eq rfl rfl

theorem leilao_fios {em : EmLeilao}
    (op : leilao c quantia juro agora agoraDiretorio m em = .ok m') : FiosDeAntes m m' := by
  cases em with
  | get =>
      simp only [leilao] at op
      split at op
      · split at op <;> cases op <;> exact fiosDeAntes_of_eq rfl rfl
      · cases op
        exact fiosDeAntes_of_eq rfl rfl
  | put =>
      cases op
      exact fiosDeAntes_of_eq rfl rfl
  | thread ref idL =>
      cases op
      refine ⟨fun other fio there => ?_, fun _ _ there => .inl there⟩
      rcases update_eq_some there with before | rfl
      · exact .inl before
      · exact .inr rfl
  | _ =>
      obtain ⟨_, _, op⟩ := ok_of_bind op
      cases op
      exact fiosDeAntes_of_eq rfl rfl

end Fios

/-- An operation of the request about `c` leads on, or is the last one. -/
theorem exchange_segue (g : m.Guardada dono) (relogio : K agora)
    (refs : m.novaRef = n + m.exchange.criados) (dela : m.exchange.empresa = some c)
    (h : m.exchange.Esboco K c n (m.parte dono c) q)
    (step : m.Passa (.exchange agora agoraDiretorio) r m') :
    ∃ P dono', m.exchange.pedido = some P ∧
      (∀ amb, (Exchange.Passo.pedido amb P).empresa = some c) ∧ m.So c dono dono' m' ∧
      FiosDeAntes m m' ∧ ((r = none ∧ Adiante K c agoraDiretorio n q P dono' m') ∨
        ∃ e, r = some (.excecao e) ∧ m'.exchange = .fim ∧
          Decidido K c n (m'.parte dono' c) q agoraDiretorio P (.excecao e) m'.novaRef) := by
  have at' : m.passa agora agoraDiretorio = some (r, m') := step
  unfold Memoria.passa at at'
  generalize ponto' : m.exchange = ponto at *
  have fails {P : Pedido R} {e : Excecao}
      (decided : Decidido K c n (m.parte dono c) q agoraDiretorio P (.excecao e) m.novaRef) :
      m.So c dono dono (m.em .fim) ∧ FiosDeAntes m (m.em .fim) ∧
        Decidido K c n ((m.em .fim).parte dono c) q agoraDiretorio P (.excecao e)
          (m.em .fim).novaRef :=
    ⟨g.so_em _, fiosDeAntes_of_eq rfl rfl, decided⟩
  cases ponto with
  | licitar empresa investidor quantia juro em =>
      cases dela
      obtain ⟨_, h⟩ := h
      have first : m.novaRef = n := by cases em <;> exact refs
      simp only at at'
      cases op : licitar c investidor quantia juro m em with
      | ok m'' =>
          rw [op] at at'
          cases at'
          have onward : m.So c dono dono m' ∧ Adiante K c agoraDiretorio n q _ dono m' :=
            licitar_segue g relogio first h op
          exact ⟨_, dono, rfl, fun _ => rfl, onward.1, licitar_fios op, .inl ⟨rfl, onward.2⟩⟩
      | error e =>
          rw [op] at at'
          cases at'
          obtain ⟨so, fios, decided⟩ := fails (licitar_falha relogio first h op)
          exact ⟨_, dono, rfl, fun _ => rfl, so, fios, .inr ⟨e, rfl, rfl, decided⟩⟩
  | emprestimo empresa investidor quantia em =>
      cases dela
      obtain ⟨_, h⟩ := h
      have first : m.novaRef = n := by cases em <;> exact refs
      simp only at at'
      cases op : emprestimo c investidor quantia m em with
      | ok m'' =>
          rw [op] at at'
          cases at'
          have onward : m.So c dono dono m' ∧ Adiante K c agoraDiretorio n q _ dono m' :=
            emprestimo_segue g relogio first h op
          exact ⟨_, dono, rfl, fun _ => rfl, onward.1, emprestimo_fios op, .inl ⟨rfl, onward.2⟩⟩
      | error e =>
          rw [op] at at'
          cases at'
          obtain ⟨so, fios, decided⟩ := fails (emprestimo_falha relogio first h op)
          exact ⟨_, dono, rfl, fun _ => rfl, so, fios, .inr ⟨e, rfl, rfl, decided⟩⟩
  | emissao empresa quantia em =>
      cases dela
      obtain ⟨_, h⟩ := h
      simp only at at'
      cases op : Threads.emissao c quantia agora m em with
      | ok m'' =>
          rw [op] at at'
          cases at'
          have onward : ∃ dono', m.So c dono dono' m' ∧ Adiante K c agoraDiretorio n q _ dono' m' :=
            emissao_segue g relogio refs h op
          obtain ⟨dono', so, onward⟩ := onward
          exact ⟨_, dono', rfl, fun _ => rfl, so, emissao_fios op, .inl ⟨rfl, onward⟩⟩
      | error e =>
          rw [op] at at'
          cases at'
          obtain ⟨so, fios, decided⟩ := fails (emissao_falha refs h op)
          exact ⟨_, dono, rfl, fun _ => rfl, so, fios, .inr ⟨e, rfl, rfl, decided⟩⟩
  | leilao empresa quantia juro em =>
      cases dela
      obtain ⟨_, h⟩ := h
      simp only at at'
      cases op : Threads.leilao c quantia juro agora agoraDiretorio m em with
      | ok m'' =>
          rw [op] at at'
          cases at'
          obtain ⟨dono', so, onward⟩ := leilao_segue g relogio refs h op
          exact ⟨_, dono', rfl, fun _ => rfl, so, leilao_fios op, .inl ⟨rfl, onward⟩⟩
      | error e =>
          rw [op] at at'
          cases at'
          obtain ⟨so, fios, decided⟩ := fails (leilao_falha refs h op)
          exact ⟨_, dono, rfl, fun _ => rfl, so, fios, .inr ⟨e, rfl, rfl, decided⟩⟩
  | _ => cases dela

/-! ### A step -/

variable {s s' : Sistema R} {K' : LocalDateTime → Prop}

def EmSerie (K : LocalDateTime → Prop) (m : Memoria R) (s : Sistema R) : Prop :=
  ∃ dono, Serie K dono m s

/-- The other system's answer to a step that shows `shown`. -/
abbrev Responde (K K' : LocalDateTime → Prop) (s : Sistema R) (shown : Option (Feito R))
    (m' : Memoria R) : Prop :=
  Runs.Answered Sistema.Passa (Entregue K K') (fun e => some (feito e)) s shown.toList
    (EmSerie K m')

omit [Gson R] in
/-- What a step about `c` has to show for `c`, and only for `c`. -/
theorem Serie.passa (h : Serie K dono m s) (so : m.So c dono dono' m') (numerados : s'.Numerados)
    (outras : ∀ d, d ≠ c → s'.quadro d = s.quadro d)
    (alheias : ∀ d p q, d ≠ c → Casa K d m.exchange p q s.novaRef →
      Casa K d m'.exchange p q s'.novaRef)
    (vivo : s'.vivo = true ↔ m'.exchange ≠ .fim)
    (refs : m'.novaRef = s'.novaRef + m'.exchange.criados)
    (casa : Casa K c m'.exchange (m'.parte dono' c) (s'.quadro c) s'.novaRef) :
    EmSerie K m' s' := by
  refine ⟨dono', so.guardada, numerados, vivo, refs, fun d => ?_⟩
  by_cases outra : d = c
  · exact outra ▸ casa
  · rw [so.alheias d outra, outras d outra]
    exact alheias d _ _ outra (h.casa d)

omit [JavaFloat R] [Gson R] in
theorem meio_eq (dela : ponto.empresa = some c) {d : String} (outra : d ≠ c) :
    ponto.meio ≠ some d := by
  refine meio_of_empresa ?_
  rw [dela]
  simpa [eq_comm] using outra

omit [Gson R] in
theorem empresa_of_esboco (h : ponto.Esboco K c n p q) : ponto.empresa = some c := by
  cases ponto with
  | licitar _ _ _ _ _ => exact congrArg some h.1
  | emprestimo _ _ _ _ => exact congrArg some h.1
  | emissao _ _ _ => exact congrArg some h.1
  | leilao _ _ _ _ => exact congrArg some h.1
  | _ => exact h.elim

theorem responde_pedido (h : Serie K dono m s) {P : Pedido R} {agoraDiretorio : LocalDateTime}
    (dela : m.exchange.empresa = some c)
    (about : ∀ amb, (Exchange.Passo.pedido amb P).empresa = some c) (so : m.So c dono dono' m')
    (relogio' : K' agoraDiretorio) {res : Resultado} (sem : m'.exchange.empresa = none)
    (semRefs : m'.exchange.criados = 0)
    (ends : (∃ sucesso, res = .resposta sucesso ∧ m'.exchange ≠ .fim) ∨
      (∃ e, res = .excecao e ∧ m'.exchange = .fim))
    (leiloes : (m'.parte dono' c).SemLeiloes none) (emissoes : (m'.parte dono' c).SemEmissoes none)
    (decided : Decidido K c s.novaRef (m'.parte dono' c) (s.quadro c) agoraDiretorio P res
      m'.novaRef) :
    Responde K K' s (some (.pedido P res)) m' := by
  obtain ⟨agora, relogio, result, fiel, refs⟩ := decided
  have vivo : s.vivo = true := by
    refine h.vivo.2 fun ended => ?_
    rw [ended] at dela
    cases dela
  have quiet (d : String) : m'.exchange.meio ≠ some d := meio_of_empresa (by simp [sem])
  obtain ⟨s', step, quadro, novaRef⟩ := Sistema.passa_pedido_apos
    ⟨agora, agoraDiretorio, true⟩ vivo rfl (about _) rfl
  rw [result] at step
  refine Runs.answered_step step ⟨rfl, relogio, relogio'⟩ ?_
  refine h.passa so (Sistema.passa_numerados h.numerados step) ?_ ?_ ?_ ?_ ?_
  · intro d outra
    refine (Sistema.passa_poupa step ?_).quadro
    rw [about]
    simpa [eq_comm] using outra
  · intro d p q outra house
    exact house.alheia (meio_eq dela outra) (quiet d)
  · rcases (Sistema.passa_pedido step).2 with ⟨sucesso, rfl, alive⟩ | ⟨e, rfl, dead⟩
    · rcases ends with ⟨_, _, goes⟩ | ⟨e, other, _⟩
      · simp [alive, goes]
      · cases other
    · rcases ends with ⟨_, other, _⟩ | ⟨_, _, stopped⟩
      · cases other
      · simp [dead, stopped]
  · rw [refs, novaRef, semRefs]
    rfl
  · exact .livre (quiet c) leiloes emissoes (quadro ▸ fiel)

omit [JavaFloat R] [Gson R] in
theorem FiosDeAntes.semLeiloes (h : FiosDeAntes m m') (g : m.Guardada dono)
    (g' : m'.Guardada dono') (quiet : (m.parte dono c).SemLeiloes none) :
    (m'.parte dono' c).SemLeiloes none := by
  refine quiet.mantem g g' fun ref fio _ there => ?_
  rcases h.1 ref fio there with before | new
  · exact .inl ⟨by simp, before⟩
  · exact .inr new

omit [JavaFloat R] [Gson R] in
theorem FiosDeAntes.semEmissoes (h : FiosDeAntes m m') (g : m.Guardada dono)
    (g' : m'.Guardada dono') (quiet : (m.parte dono c).SemEmissoes none) :
    (m'.parte dono' c).SemEmissoes none := by
  refine quiet.mantem g g' fun ref fio _ there => ?_
  rcases h.2 ref fio there with before | new
  · exact .inl ⟨by simp, before⟩
  · exact .inr new

omit [JavaFloat R] [Gson R] in
theorem decisao_eq {res : Resultado} (h : ponto.decisao = some res) :
    (∃ sucesso, res = .resposta sucesso ∧ ponto ≠ .fim) ∧ ponto.empresa = none ∧
      ponto.criados = 0 := by
  cases ponto <;> cases h
  · exact ⟨⟨true, rfl, by simp⟩, rfl, rfl⟩
  · exact ⟨⟨false, rfl, by simp⟩, rfl, rfl⟩

theorem responde_exchange (h : Serie K dono m s)
    (isolado : m.Isolado (.exchange agora agoraDiretorio)) (relogio : K agora)
    (relogio' : K' agoraDiretorio) (step : m.Passa (.exchange agora agoraDiretorio) r m') :
    Responde K K' s (Lance.feito ⟨m, .exchange agora agoraDiretorio, r, m'⟩) m' := by
  cases dela : m.exchange.empresa with
  | none =>
      have at' : m.passa agora agoraDiretorio = some (r, m') := step
      unfold Memoria.passa at at'
      have back : m' = m.em .recv ∧ m.exchange ≠ .fim ∧ m.exchange.pedido = none ∧
          m.exchange.criados = 0 := by
        cases exch : m.exchange with
        | recv =>
            rw [exch] at at'
            cases at'
        | aceita p objeto idL =>
            rw [exch] at at'
            cases at'
            exact ⟨rfl, by simp, rfl, rfl⟩
        | recusa =>
            rw [exch] at at'
            cases at'
            exact ⟨rfl, by simp, rfl, rfl⟩
        | fim =>
            rw [exch] at at'
            cases at'
        | _ =>
            rw [exch] at dela
            cases dela
      obtain ⟨rfl, went, pedido, criados⟩ := back
      simp only [Lance.feito, pedido]
      refine Runs.answered_nil ⟨dono, h.guardada.em _, h.numerados, ?_, ?_, ?_⟩
      · simp [h.vivo, went, Memoria.em]
      · have refs := h.refs
        rw [criados] at refs
        exact refs
      · intro d
        have quiet : m.exchange.meio ≠ some d := meio_of_empresa (by simp [dela])
        exact (h.casa d).alheia quiet (by simp [Memoria.em, Ponto.meio, Ponto.empresa])
  | some c =>
      obtain ⟨semLeiloes, semEmissoes⟩ := isolado c dela
      have leiloes := semLeiloes.parte h.guardada
      have emissoes := semEmissoes.parte h.guardada
      have outline := (h.casa c).esboco dela leiloes emissoes
      obtain ⟨P, dono', pedido, about, so, fios, ends⟩ :=
        exchange_segue h.guardada relogio h.refs dela outline step
      have leiloes' := fios.semLeiloes h.guardada so.guardada leiloes
      have emissoes' := fios.semEmissoes h.guardada so.guardada emissoes
      simp only [Lance.feito, pedido]
      rcases ends with ⟨rfl, onward⟩ | ⟨e, rfl, stopped, decided⟩
      · cases onward with
        | curso mesmo refs esboco =>
            have dela' := empresa_of_esboco esboco
            have undecided : m'.exchange.decisao = none := by
              cases exch : m'.exchange <;> rw [exch] at mesmo <;> cases mesmo <;> rfl
            have goes : m'.exchange ≠ .fim := by
              intro stopped
              rw [stopped] at dela'
              cases dela'
            have went : m.exchange ≠ .fim := by
              intro stopped
              rw [stopped] at dela
              cases dela
            rw [undecided]
            refine Runs.answered_nil (h.passa so h.numerados (fun _ _ => rfl) ?_ ?_ refs ?_)
            · intro d p q outra house
              exact house.alheia (meio_eq dela outra) (meio_eq dela' outra)
            · simp [h.vivo, goes, went]
            · exact .of_esboco esboco leiloes' emissoes'
        | decidiu resposta decidido =>
            obtain ⟨ends, sem, semRefs⟩ := decisao_eq resposta
            rw [resposta]
            exact responde_pedido h dela about so relogio' sem semRefs (.inl ends) leiloes'
              emissoes' decidido
      · rw [stopped]
        exact responde_pedido h dela about so relogio' (by simp [stopped, Ponto.empresa])
          (by simp [stopped, Ponto.criados]) (.inr ⟨e, rfl, stopped⟩) leiloes' emissoes' decided

theorem responde_recv (h : Serie K dono m s) (relogio : ∃ agora, K agora)
    (relogio' : ∃ agora, K' agora) {P : Pedido R} (step : m.Passa (.recv P) r m') :
    Responde K K' s (Lance.feito ⟨m, .recv P, r, m'⟩) m' := by
  cases step.move with
  | recv at' =>
      have went : m.exchange ≠ .fim := by simp [at']
      have goes : inicio P ≠ .fim := by cases P <;> simp [inicio]
      have kept : EmSerie K (m.em (inicio P)) s := by
        refine ⟨dono, h.guardada.em _, h.numerados, ?_, ?_, fun d => ?_⟩
        · simp [h.vivo, went, goes, Memoria.em]
        · have refs := h.refs
          rw [at'] at refs
          cases P <;> exact refs
        · refine (h.casa d).alheia ?_ ?_
          · simp [at', Ponto.meio, Ponto.empresa]
          · cases P <;> simp [Memoria.em, inicio, Ponto.meio, Ponto.empresa]
      cases P with
      | outro =>
          obtain ⟨agora, known⟩ := relogio
          obtain ⟨agora', known'⟩ := relogio'
          have vivo : s.vivo = true := h.vivo.2 went
          have refused : s.Passa (.pedido ⟨agora, agora', true⟩ .outro) (.resposta false) s := by
            simp [Sistema.Passa, Sistema.proximo, vivo, atende]
          exact Runs.answered_step refused ⟨rfl, known, known'⟩ kept
      | _ => exact Runs.answered_nil kept

/-! ### Operations of a settlement thread -/

theorem fios_antes {E : Type} {meio : E → Bool} {f f' : Nat → Option (Fio E)} {ref : Nat}
    {x : Fio E} (put : f' = Function.update f ref (some x))
    (done : meio x.em = false ∨ exceto = some ref) (other : Nat) (fio : Fio E)
    (differs : exceto ≠ some other) (there : f' other = some fio) :
    (some ref ≠ some other ∧ f other = some fio) ∨ meio fio.em = false := by
  rw [put] at there
  by_cases here : other = ref
  · subst here
    rw [Function.update_self, Option.some.injEq] at there
    subst there
    exact .inr (done.resolve_right differs)
  · rw [Function.update_of_ne here] at there
    exact .inl ⟨by simpa [eq_comm] using here, there⟩

theorem fios_iguais {E : Type} {meio : E → Bool} {f f' : Nat → Option (Fio E)} (same : f' = f)
    (other : Nat) (fio : Fio E) (differs : exceto ≠ some other) (there : f' other = some fio) :
    (exceto ≠ some other ∧ f other = some fio) ∨ meio fio.em = false :=
  .inl ⟨differs, same ▸ there⟩

omit [Gson R] in
theorem Serie.passa_thread (h : Serie K dono m s) (so : m.So c dono dono m')
    (exchange : m'.exchange = m.exchange) (novaRef : m'.novaRef = m.novaRef)
    (numerados : s'.Numerados) (outras : ∀ d, d ≠ c → s'.quadro d = s.quadro d)
    (vivo : s'.vivo = s.vivo) (refs : s'.novaRef = s.novaRef)
    (casa : Casa K c m.exchange (m'.parte dono c) (s'.quadro c) s.novaRef) : EmSerie K m' s' := by
  refine h.passa so numerados outras ?_ ?_ ?_ ?_
  · intro d p q _ house
    rw [exchange, refs]
    exact house
  · rw [exchange, vivo, h.vivo]
  · rw [exchange, novaRef, refs]
    exact h.refs
  · rw [exchange, refs]
    exact casa

/-- A settlement of `c` is done: the other system makes it as a whole. -/
theorem Serie.encerra (h : Serie K dono m s) (so : m.So c dono dono m')
    (exchange : m'.exchange = m.exchange) (novaRef : m'.novaRef = m.novaRef)
    {l : Exchange.Passo R} {res : Resultado} (step : s.Passa l res s')
    (thread : ∀ amb P, l ≠ .pedido amb P) (about : l.empresa = some c)
    (refs : s'.novaRef = s.novaRef) (fora : m.exchange.meio ≠ some c)
    (leiloes : (m'.parte dono c).SemLeiloes none) (emissoes : (m'.parte dono c).SemEmissoes none)
    (fiel : (m'.parte dono c).Fiel c (s'.quadro c)) : EmSerie K m' s' := by
  refine h.passa_thread so exchange novaRef (Sistema.passa_numerados h.numerados step) ?_
    (Sistema.passa_thread step thread).vivo refs (.livre fora leiloes emissoes fiel)
  intro d outra
  refine (Sistema.passa_poupa step ?_).quadro
  rw [about]
  simpa [eq_comm] using outra

theorem responde_terminaLeilao (h : Serie K dono m s) (relogio : ∃ agora, K agora)
    (relogio' : ∃ agora, K' agora) {ref : Nat} (isolado : m.Isolado (.terminaLeilao ref))
    (step : m.Passa (.terminaLeilao ref) r m') :
    Responde K K' s (Lance.feito ⟨m, .terminaLeilao ref, r, m'⟩) m' := by
  have ended {c : String} {idL : Nat} {em : EmTerminaLeilao R} {m'' : Memoria R} {res : Resultado}
      (at' : m.terminaLeiloes ref = some ⟨c, idL, em⟩)
      (por : ⟨c, idL, ref⟩ ∈ (s.quadro c).terminaLeiloes) (so : m.So c dono dono m'')
      (threads : m''.terminaLeiloes = Function.update m.terminaLeiloes ref (some ⟨c, idL, .fim⟩))
      (threads' : m''.terminaEmissoes = m.terminaEmissoes) (exchange : m''.exchange = m.exchange)
      (novaRef : m''.novaRef = m.novaRef)
      (done : EncerradoLeilao c idL ref (s.quadro c) res (m''.parte dono c)) :
      Responde K K' s (some (.terminaLeilao ⟨c, idL, ref⟩ res)) m'' := by
    obtain ⟨fora, semLeiloes, semEmissoes⟩ := isolado _ at'
    obtain ⟨agora, known⟩ := relogio
    obtain ⟨agora', known'⟩ := relogio'
    obtain ⟨result, fiel⟩ := done s.novaRef
    obtain ⟨s', step, quadro, refs⟩ := Sistema.passa_terminaLeilao_apos
      ⟨agora, agora', true⟩ rfl h.numerados.nodup_leiloes por.1 rfl
    rw [result] at step
    rw [Quadro.aposTerminaLeilao_novaRef] at refs
    exact Runs.answered_step step ⟨rfl, known, known'⟩ (h.encerra so exchange novaRef step
      (by simp) rfl refs fora
      ((semLeiloes.parte h.guardada).mantem h.guardada so.guardada (fios_antes threads (.inl rfl)))
      ((semEmissoes.parte h.guardada).mantem h.guardada so.guardada (fios_iguais threads'))
      (quadro ▸ fiel))
  have outline {c : String} {idL : Nat} {em : EmTerminaLeilao R}
      (at' : m.terminaLeiloes ref = some ⟨c, idL, em⟩) (corre : em ≠ .fim) :=
    (h.casa c).esboco_leilao (isolado _ at').1
      (proprio_eq_some.2 ⟨h.guardada.leiloes _ _ at', at'⟩) corre
      ((isolado _ at').2.1.parte h.guardada) ((isolado _ at').2.2.parte h.guardada)
  cases step.move with
  | @terminaLeilao _ idL c em em' m'' at' corre op =>
      obtain ⟨por, esboco⟩ := outline at' corre
      obtain ⟨so, onward⟩ := terminaLeilao_segue h.guardada at' corre esboco op
      obtain ⟨threads, exchange, novaRef⟩ := terminaLeilao_threads op
      have threads' := terminaLeilao_terminaEmissoes op
      have put : (m''.poeTerminaLeilao ref ⟨c, idL, em'⟩).terminaLeiloes =
          Function.update m.terminaLeiloes ref (some ⟨c, idL, em'⟩) := by
        rw [Memoria.poeTerminaLeilao, threads]
      have here : (m''.poeTerminaLeilao ref ⟨c, idL, em'⟩).terminaLeiloes ref =
          some ⟨c, idL, em'⟩ := by
        rw [put, Function.update_self]
      simp only [Lance.feito, here]
      cases onward with
      | fim ends encerrado =>
          subst ends
          exact ended at' por so put threads' exchange novaRef encerrado
      | curso corre' ran esboco' =>
          obtain ⟨fora, semLeiloes, semEmissoes⟩ := isolado _ at'
          have meio : em'.meio = true := by cases em' <;> first | rfl | contradiction
          have silent : em'.acabou = false := by cases em' <;> first | rfl | contradiction
          have inHouse := proprio_eq_some.2 ⟨so.guardada.leiloes _ _ here, here⟩
          rw [if_neg (by simp [silent])]
          exact Runs.answered_nil (h.passa_thread so exchange novaRef h.numerados (fun _ _ => rfl)
            rfl rfl (.terminaLeilao fora
              ((semLeiloes.parte h.guardada).mantem h.guardada so.guardada
                (fios_antes put (.inr rfl)))
              ((semEmissoes.parte h.guardada).mantem h.guardada so.guardada (fios_iguais threads'))
              inHouse meio por esboco'))
  | @falhaTerminaLeilao _ idL c em e at' corre op =>
      obtain ⟨por, esboco⟩ := outline at' corre
      obtain ⟨so, encerrado⟩ := terminaLeilao_falha h.guardada at' esboco op
      have here : (m.poeTerminaLeilao ref ⟨c, idL, .fim⟩).terminaLeiloes ref =
          some ⟨c, idL, .fim⟩ := Function.update_self ..
      simp only [Lance.feito, here]
      exact ended at' por so rfl rfl rfl rfl encerrado

theorem responde_terminaEmissao (h : Serie K dono m s) (relogio : ∃ agora, K agora)
    (relogio' : ∃ agora, K' agora) {ref : Nat} (isolado : m.Isolado (.terminaEmissao ref))
    (step : m.Passa (.terminaEmissao ref) r m') :
    Responde K K' s (Lance.feito ⟨m, .terminaEmissao ref, r, m'⟩) m' := by
  have ended {c : String} {idL : Nat} {em : EmTerminaEmissao R} {m'' : Memoria R} {res : Resultado}
      (at' : m.terminaEmissoes ref = some ⟨c, idL, em⟩)
      (por : ⟨c, idL, ref⟩ ∈ (s.quadro c).terminaEmissoes) (so : m.So c dono dono m'')
      (threads : m''.terminaLeiloes = m.terminaLeiloes)
      (threads' : m''.terminaEmissoes = Function.update m.terminaEmissoes ref (some ⟨c, idL, .fim⟩))
      (exchange : m''.exchange = m.exchange) (novaRef : m''.novaRef = m.novaRef)
      (done : EncerradaEmissao c idL ref (s.quadro c) res (m''.parte dono c)) :
      Responde K K' s (some (.terminaEmissao ⟨c, idL, ref⟩ res)) m'' := by
    obtain ⟨fora, semLeiloes, semEmissoes⟩ := isolado _ at'
    obtain ⟨agora, known⟩ := relogio
    obtain ⟨agora', known'⟩ := relogio'
    obtain ⟨result, fiel⟩ := done s.novaRef
    obtain ⟨s', step, quadro, refs⟩ := Sistema.passa_terminaEmissao_apos
      ⟨agora, agora', true⟩ rfl h.numerados.nodup_emissoes por.1 rfl
    rw [result] at step
    rw [Quadro.aposTerminaEmissao_novaRef] at refs
    exact Runs.answered_step step ⟨rfl, known, known'⟩ (h.encerra so exchange novaRef step
      (by simp) rfl refs fora
      ((semLeiloes.parte h.guardada).mantem h.guardada so.guardada (fios_iguais threads))
      ((semEmissoes.parte h.guardada).mantem h.guardada so.guardada
        (fios_antes threads' (.inl rfl)))
      (quadro ▸ fiel))
  have outline {c : String} {idL : Nat} {em : EmTerminaEmissao R}
      (at' : m.terminaEmissoes ref = some ⟨c, idL, em⟩) (corre : em ≠ .fim) :=
    (h.casa c).esboco_emissao (isolado _ at').1
      (proprio_eq_some.2 ⟨h.guardada.emissoes _ _ at', at'⟩) corre
      ((isolado _ at').2.1.parte h.guardada) ((isolado _ at').2.2.parte h.guardada)
  cases step.move with
  | @terminaEmissao _ idL c em em' m'' at' corre op =>
      obtain ⟨por, esboco⟩ := outline at' corre
      obtain ⟨so, onward⟩ := terminaEmissao_segue h.guardada at' corre esboco op
      obtain ⟨threads, threads', exchange, novaRef⟩ := terminaEmissao_threads op
      have put : (m''.poeTerminaEmissao ref ⟨c, idL, em'⟩).terminaEmissoes =
          Function.update m.terminaEmissoes ref (some ⟨c, idL, em'⟩) := by
        rw [Memoria.poeTerminaEmissao, threads']
      have here : (m''.poeTerminaEmissao ref ⟨c, idL, em'⟩).terminaEmissoes ref =
          some ⟨c, idL, em'⟩ := by
        rw [put, Function.update_self]
      simp only [Lance.feito, here]
      cases onward with
      | fim ends encerrada =>
          subst ends
          exact ended at' por so threads put exchange novaRef encerrada
      | curso corre' ran esboco' =>
          obtain ⟨fora, semLeiloes, semEmissoes⟩ := isolado _ at'
          have meio : em'.meio = true := by cases em' <;> first | rfl | contradiction
          have silent : em'.acabou = false := by cases em' <;> first | rfl | contradiction
          have inHouse := proprio_eq_some.2 ⟨so.guardada.emissoes _ _ here, here⟩
          rw [if_neg (by simp [silent])]
          exact Runs.answered_nil (h.passa_thread so exchange novaRef h.numerados (fun _ _ => rfl)
            rfl rfl (.terminaEmissao fora
              ((semLeiloes.parte h.guardada).mantem h.guardada so.guardada (fios_iguais threads))
              ((semEmissoes.parte h.guardada).mantem h.guardada so.guardada
                (fios_antes put (.inr rfl)))
              inHouse meio por esboco'))
  | @falhaTerminaEmissao _ idL c em e at' corre op =>
      obtain ⟨por, esboco⟩ := outline at' corre
      obtain ⟨so, encerrada⟩ := terminaEmissao_falha h.guardada at' esboco op
      have here : (m.poeTerminaEmissao ref ⟨c, idL, .fim⟩).terminaEmissoes ref =
          some ⟨c, idL, .fim⟩ := Function.update_self ..
      simp only [Lance.feito, here]
      exact ended at' por so rfl rfl rfl rfl encerrada

def Relogios (K K' : LocalDateTime → Prop) : Passo R → Prop
  | .exchange agora agoraDiretorio => K agora ∧ K' agoraDiretorio
  | _ => True

/-- The step overlaps with nothing within its company, and its clocks are among those. -/
def Lance.Isolado (K K' : LocalDateTime → Prop) (e : Lance R) : Prop :=
  e.pre.Isolado e.label ∧ Relogios K K' e.label

/-- The threads are simulated by the other system, company by company. -/
theorem simulado (relogio : ∃ agora, K agora) (relogio' : ∃ agora, K' agora) :
    Runs.Simulated (Memoria.Passa (R := R)) (Lance.Isolado K K') Lance.feito Sistema.Passa
      (Entregue K K') (fun e => some (feito e)) (EmSerie K) := by
  intro m l r m' s related step guard
  obtain ⟨dono, h⟩ := related
  obtain ⟨isolado, clocks⟩ := guard
  cases l with
  | recv P => exact responde_recv h relogio relogio' step
  | exchange agora agoraDiretorio => exact responde_exchange h isolado clocks.1 clocks.2 step
  | terminaLeilao ref => exact responde_terminaLeilao h relogio relogio' isolado step
  | terminaEmissao ref => exact responde_terminaEmissao h relogio relogio' isolado step

omit [Gson R] in
theorem emSerie_inicial (nomes registadas : List String) :
    EmSerie K (Memoria.inicial nomes registadas : Memoria R)
      (Sistema.inicial nomes registadas) := by
  have unseen {α : Type} (c : String) (f : Nat → Option α) :
      proprio (fun _ => none) c f = fun _ => none := rfl
  refine ⟨fun _ => none, ⟨by simp, ?_, ?_⟩, ⟨?_, ?_⟩, by simp [Memoria.inicial, Sistema.inicial],
    rfl, fun c => .livre ?_ ?_ ?_ ⟨⟨?_, ?_, ?_, ?_, ?_, ?_⟩, ?_⟩⟩
  · intro ref fio there
    cases there
  · intro ref fio there
    cases there
  · exact List.pairwise_singleton _ _
  · exact List.pairwise_singleton _ _
  · simp [Memoria.inicial, Ponto.meio, Ponto.empresa]
  · intro ref fio _ there
    cases there
  · intro ref fio _ there
    cases there
  · intro e he ref old
    simp only [Memoria.parte, Memoria.inicial] at he
    split at he <;> cases he
    cases old
  · intro e he ref old
    simp only [Memoria.parte, Memoria.inicial] at he
    split at he <;> cases he
    cases old
  · intro ref there
    cases there
  · intro ref there
    cases there
  · intro ref e there
    cases there
  · intro ref e there
    cases there
  · simp only [Parte.quadro, Memoria.parte, unseen]
    by_cases hosted : c ∈ nomes <;>
      simp [Memoria.inicial, Sistema.inicial, Sistema.quadro, pendentes, hosted, Empresa.novo]

end Passos

end PeerLanding.Threads
