import PeerLanding.Company

/-! What a run has done about one company, read off its recorded steps: which
requests were answered true, and which auctions and emissions were settled. -/

namespace PeerLanding

open Exchange

variable {R : Type}

/-- A recorded step as one company sees it. -/
abbrev Momento (R : Type) : Type := Runs.Transition (Ficha R) (Passo R) Resultado

def Exchange.Passo.finito [JavaFloat R] : Passo R → Bool
  | .pedido _ (.licitar _ _ _ juro) => JavaFloat.isFinite juro
  | .pedido _ (.leilao _ _ juro) => JavaFloat.isFinite juro
  | _ => true

def Exchange.Passo.entregue : Passo R → Bool
  | .pedido amb _ => amb.entregue
  | .terminaLeilao amb _ => amb.entregue
  | .terminaEmissao amb _ => amb.entregue

@[simp] theorem Exchange.Passo.entregue_pedido (amb : Ambiente) (p : Pedido R) :
    (Passo.pedido amb p).entregue = amb.entregue := rfl

@[simp] theorem Exchange.Passo.entregue_terminaLeilao (amb : Ambiente)
    (thread : TerminaLeilao) :
    (Passo.terminaLeilao (R := R) amb thread).entregue = amb.entregue := rfl

@[simp] theorem Exchange.Passo.entregue_terminaEmissao (amb : Ambiente)
    (thread : TerminaEmissao) :
    (Passo.terminaEmissao (R := R) amb thread).entregue = amb.entregue := rfl

@[simp] theorem Exchange.Passo.finito_licitar [JavaFloat R] (amb : Ambiente)
    (c investidor : String) (quantia : Int32) (juro : R) :
    (Passo.pedido amb (.licitar c investidor quantia juro)).finito =
      JavaFloat.isFinite juro := rfl

@[simp] theorem Exchange.Passo.finito_leilao [JavaFloat R] (amb : Ambiente) (c : String)
    (quantia : Int32) (juro : R) :
    (Passo.pedido amb (.leilao c quantia juro)).finito =
      JavaFloat.isFinite juro := rfl

theorem percurso_finito [JavaFloat R] (c : String) {t : List (Transicao R)}
    (h : ∀ e ∈ t, e.label.finito = true) : ∀ e ∈ percurso c t, e.label.finito = true := by
  intro e he
  obtain ⟨e', he', rfl⟩ := List.mem_map.1 he
  exact h e' he'

namespace Momento

/-- The request for `c` that the step answers true, if it does. -/
def aceite (c : String) (e : Momento R) : Option (Pedido R) :=
  if e.label.empresa = some c then
    match e.label, e.result with
    | .pedido _ p, .resposta true => some p
    | _, _ => none
  else none

def abriuLeilao (c : String) (e : Momento R) : Bool :=
  match e.aceite c with
  | some (.leilao _ _ _) => true
  | _ => false

def abriuEmissao (c : String) (e : Momento R) : Bool :=
  match e.aceite c with
  | some (.emissao _ _) => true
  | _ => false

def licitacaoAceite (c : String) (e : Momento R) : Option (Licitacao R) :=
  match e.aceite c with
  | some (.licitar _ investidor quantia juro) => some ⟨investidor, juro, quantia⟩
  | _ => none

def emprestimoAceite [JavaFloat R] (c : String) (e : Momento R) : Option (Licitacao R) :=
  match e.aceite c with
  | some (.emprestimo _ investidor quantia) => some (.semTaxa investidor quantia)
  | _ => none

/-- The auction for which the step makes the Directory append a record. -/
def leilaoPublicado (c : String) (e : Momento R) : Option Nat :=
  match e.aceite c with
  | some (.leilao _ _ _) => if e.label.entregue then e.post.leilao.map (·.ref) else none
  | _ => none

def emissaoPublicada (c : String) (e : Momento R) : Option Nat :=
  match e.aceite c with
  | some (.emissao _ _) => if e.label.entregue then e.post.emissao.map (·.ref) else none
  | _ => none

/-- The auction that a settlement thread of `c` takes out of `leiloes`. -/
def leilaoTerminado (c : String) (e : Momento R) : Option (Leilao R) :=
  if e.label.empresa = some c then
    match e.label with
    | .terminaLeilao _ _ => e.pre.leilao
    | _ => none
  else none

/-! ### Steps about other companies and refused requests leave no trace -/

variable {c : String} {f f' : Ficha R} {l : Passo R} {r : Resultado} {amb : Ambiente}
  {p : Pedido R}

@[simp] theorem aceite_alheio (h : l.empresa ≠ some c) : aceite c ⟨f, l, r, f'⟩ = none := by
  simp [aceite, h]

@[simp] theorem aceite_recusa : aceite c ⟨f, .pedido amb p, .resposta false, f'⟩ = none := by
  simp [aceite]

@[simp] theorem aceite_excecao (e : Excecao) : aceite c ⟨f, l, .excecao e, f'⟩ = none := by
  cases l <;> simp [aceite]

@[simp] theorem aceite_fim : aceite c ⟨f, l, .fim, f'⟩ = none := by
  cases l <;> simp [aceite]

theorem aceite_resposta (h : (Passo.pedido amb p).empresa = some c) :
    aceite c ⟨f, .pedido amb p, .resposta true, f'⟩ = some p := if_pos h

section Pedidos

variable {investidor : String} {quantia : Int32} {juro : R}

@[simp] theorem aceite_licitar :
    aceite c ⟨f, .pedido amb (.licitar c investidor quantia juro), .resposta true, f'⟩ =
      some (.licitar c investidor quantia juro) := aceite_resposta rfl

@[simp] theorem aceite_emprestimo :
    aceite c ⟨f, .pedido amb (.emprestimo c investidor quantia), .resposta true, f'⟩ =
      some (.emprestimo c investidor quantia) := aceite_resposta rfl

@[simp] theorem aceite_emissao :
    aceite c ⟨f, .pedido amb (.emissao c quantia), .resposta true, f'⟩ =
      some (.emissao c quantia) := aceite_resposta rfl

@[simp] theorem aceite_leilao :
    aceite c ⟨f, .pedido amb (.leilao c quantia juro), .resposta true, f'⟩ =
      some (.leilao c quantia juro) := aceite_resposta rfl

end Pedidos

theorem pedido_of_aceite {e : Momento R} (h : e.aceite c = some p) :
    ∃ amb, e.label = .pedido amb p := by
  obtain ⟨f, l, r, f'⟩ := e
  unfold aceite at h
  split_ifs at h
  split at h
  · next amb q hl _ => exact ⟨amb, hl.trans (congrArg _ (Option.some.inj h))⟩
  · cases h

@[simp] theorem leilaoTerminado_alheio (h : l.empresa ≠ some c) :
    leilaoTerminado c ⟨f, l, r, f'⟩ = none := by
  simp [leilaoTerminado, h]

@[simp] theorem leilaoTerminado_pedido :
    leilaoTerminado c ⟨f, .pedido amb p, r, f'⟩ = none := by
  unfold leilaoTerminado
  split <;> rfl

@[simp] theorem leilaoTerminado_terminaLeilao (thread : TerminaLeilao) :
    leilaoTerminado c ⟨f, .terminaLeilao amb thread, r, f'⟩ =
      if thread.empresa = c then f.leilao else none := by
  simp [leilaoTerminado]

@[simp] theorem leilaoTerminado_terminaEmissao (thread : TerminaEmissao) :
    leilaoTerminado c ⟨f, .terminaEmissao amb thread, r, f'⟩ = none := by
  simp [leilaoTerminado]

end Momento

/-! ### Whole runs -/

def leiloesAbertos (c : String) (t : List (Momento R)) : Nat :=
  t.countP (Momento.abriuLeilao c)

def emissoesAbertas (c : String) (t : List (Momento R)) : Nat :=
  t.countP (Momento.abriuEmissao c)

def licitacoesAceites (c : String) (t : List (Momento R)) : List (Licitacao R) :=
  t.filterMap (Momento.licitacaoAceite c)

def emprestimosAceites [JavaFloat R] (c : String) (t : List (Momento R)) :
    List (Licitacao R) :=
  t.filterMap (Momento.emprestimoAceite c)

def leiloesTerminados (c : String) (t : List (Momento R)) : List (Leilao R) :=
  t.filterMap (Momento.leilaoTerminado c)

/-- The auctions behind the Directory's records of `c`, in the order of the records. -/
def leiloesPublicados (c : String) (t : List (Momento R)) : List Nat :=
  t.filterMap (Momento.leilaoPublicado c)

def emissoesPublicadas (c : String) (t : List (Momento R)) : List Nat :=
  t.filterMap (Momento.emissaoPublicada c)

section Concat

variable (c : String) (t : List (Momento R)) (e : Momento R)

@[simp] theorem leiloesAbertos_concat :
    leiloesAbertos c (t ++ [e]) = leiloesAbertos c t + (e.abriuLeilao c).toNat := by
  cases h : e.abriuLeilao c <;> simp [leiloesAbertos, h]

@[simp] theorem emissoesAbertas_concat :
    emissoesAbertas c (t ++ [e]) = emissoesAbertas c t + (e.abriuEmissao c).toNat := by
  cases h : e.abriuEmissao c <;> simp [emissoesAbertas, h]

@[simp] theorem licitacoesAceites_concat :
    licitacoesAceites c (t ++ [e]) =
      licitacoesAceites c t ++ (e.licitacaoAceite c).toList := by
  cases h : e.licitacaoAceite c <;> simp [licitacoesAceites, h]

@[simp] theorem emprestimosAceites_concat [JavaFloat R] :
    emprestimosAceites c (t ++ [e]) =
      emprestimosAceites c t ++ (e.emprestimoAceite c).toList := by
  cases h : e.emprestimoAceite c <;> simp [emprestimosAceites, h]

@[simp] theorem leiloesTerminados_concat :
    leiloesTerminados c (t ++ [e]) =
      leiloesTerminados c t ++ (e.leilaoTerminado c).toList := by
  cases h : e.leilaoTerminado c <;> simp [leiloesTerminados, h]

@[simp] theorem leiloesPublicados_concat :
    leiloesPublicados c (t ++ [e]) =
      leiloesPublicados c t ++ (e.leilaoPublicado c).toList := by
  cases h : e.leilaoPublicado c <;> simp [leiloesPublicados, h]

@[simp] theorem emissoesPublicadas_concat :
    emissoesPublicadas c (t ++ [e]) =
      emissoesPublicadas c t ++ (e.emissaoPublicada c).toList := by
  cases h : e.emissaoPublicada c <;> simp [emissoesPublicadas, h]

end Concat

end PeerLanding
