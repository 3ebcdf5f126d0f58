import PeerLanding.Trace

/-! What the Directory's records and the exchange's objects have in common: an auction
or emission as a position, an amount, a list of bids and two flags. -/

namespace PeerLanding

open Exchange

variable {R : Type}

theorem modify_last {α : Type} (xs : List α) (x : α) (f : α → α) :
    (xs ++ [x]).modify xs.length f = xs ++ [f x] := by
  induction xs with
  | nil => simp
  | cons y xs ih => simp [ih]

theorem map_modify_last {α β : Type} {v : α → β} {f : α → α} {xs : List α} {ys : List β}
    {y z : β} (h : xs.map v = ys ++ [y]) (hf : ∀ x, v x = y → v (f x) = z) :
    (xs.modify ys.length f).map v = ys ++ [z] := by
  obtain ⟨init, last, rfl, hinit, hlast⟩ := List.map_eq_append_iff.1 h
  obtain ⟨x, rfl, hx⟩ := List.map_eq_singleton_iff.1 hlast
  rw [← hinit, List.length_map, modify_last, List.map_append, List.map_singleton, hf x hx]

structure Vista (R : Type) where
  id : Int
  montanteTotal : Int32
  licitacoes : List (Option String × R × Int32)
  ativo : Bool
  sucesso : Bool
  deriving DecidableEq

namespace Directory

def Licitacao.vista (l : Licitacao R) : Option String × R × Int32 :=
  (l.investidor, l.taxa, l.quantia)

def Leilao.vista (leilao : Leilao R) : Vista R :=
  ⟨leilao.id, leilao.montanteTotal, leilao.licitacoes.map Licitacao.vista, leilao.ativo,
    leilao.sucesso⟩

def Emissao.vista (emissao : Emissao R) : Vista R :=
  ⟨emissao.id, emissao.montanteTotal, emissao.licitacoes.map Licitacao.vista, emissao.ativo,
    emissao.sucesso⟩

end Directory

namespace Exchange

def Licitacao.vista (l : Licitacao R) : Option String × R × Int32 :=
  (some l.investidor, l.taxa, l.quantia)

/-- The auction at position `i`; an open one has no outcome yet. -/
def Leilao.vista (i : Nat) (leilao : Leilao R) (ativo : Bool) : Vista R :=
  ⟨i, leilao.montanteTotal, leilao.licitacoes.map Licitacao.vista, ativo,
    !ativo && leilao.sucesso⟩

def Emissao.vista (i : Nat) (emissao : Emissao R) (ativo : Bool) : Vista R :=
  ⟨i, emissao.montanteTotal, emissao.licitacoes.map Licitacao.vista, ativo,
    !ativo && emissao.sucesso⟩

theorem Licitacao.recebida_vista (l : Licitacao R) : l.recebida.vista = l.vista := rfl

theorem Leilao.recebe_vista {i : Nat} {leilao : Leilao R} {registo : Directory.Leilao R}
    (h : registo.vista = leilao.vista i true) (id : Int) (l : Licitacao R) :
    (registo.recebe ⟨id, some l.investidor, l.taxa, l.quantia⟩).vista =
      (leilao.comLicitacao l).vista i true := by
  simp only [Directory.Leilao.vista, Leilao.vista, Vista.mk.injEq] at h
  simp [Directory.Leilao.vista, Directory.Leilao.recebe, Leilao.vista, h,
    Directory.Licitacao.vista, Licitacao.vista]

theorem Emissao.recebe_vista {i : Nat} {emissao : Emissao R} {registo : Directory.Emissao R}
    (h : registo.vista = emissao.vista i true) (id : Int) (l : Licitacao R) :
    (registo.recebe ⟨id, some l.investidor, l.taxa, l.quantia⟩).vista =
      (emissao.comLicitacao l).vista i true := by
  simp only [Directory.Emissao.vista, Emissao.vista, Vista.mk.injEq] at h
  simp [Directory.Emissao.vista, Directory.Emissao.recebe, Emissao.vista, h,
    Directory.Licitacao.vista, Licitacao.vista]

variable [JavaFloat R]

/-- The outcome at both ends. The bids are sent along exactly when they have changed. -/
theorem Leilao.termina_vista {i : Nat} {leilao : Leilao R} {registo : Directory.Leilao R}
    (h : registo.vista = leilao.vista i true) (aberto : leilao.sucesso = false)
    (c : String) (idL : Int) :
    (registo.encerra (leilao.termina c idL).2.recebido).vista =
      (leilao.termina c idL).1.vista i false := by
  simp only [Directory.Leilao.vista, Leilao.vista, Vista.mk.injEq] at h
  rcases leilao.termina_cases c idL with ⟨_, ht⟩ | ⟨_, _, ht⟩ | ⟨_, _, ht⟩ <;>
    simp [ht, Directory.Leilao.vista, Directory.Leilao.encerra, Leilao.vista, h, aberto,
      RestRequest.recebido, RestRequest.desfecho, RestRequest.alocacao,
      Licitacao.recebida_vista]

theorem Emissao.termina_vista {i : Nat} {emissao : Emissao R} {registo : Directory.Emissao R}
    (h : registo.vista = emissao.vista i true) (c : String) (idL : Int) :
    (registo.encerra (emissao.termina c idL).2.recebido).vista =
      (emissao.termina c idL).1.vista i false := by
  simp only [Directory.Emissao.vista, Emissao.vista, Vista.mk.injEq] at h
  obtain ⟨sucesso, he⟩ := emissao.termina_eq c idL
  simp [he, Directory.Emissao.vista, Directory.Emissao.encerra, Emissao.vista, h,
    RestRequest.recebido, RestRequest.desfecho]

end Exchange

end PeerLanding
