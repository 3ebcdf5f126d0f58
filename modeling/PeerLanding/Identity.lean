import PeerLanding.Trace

/-! The identities of a company's auctions and emissions. A new object takes a reference
that no object of the exchange had before, so in every reachable state references tell
the objects of a company apart. -/

namespace PeerLanding

open Exchange

/-- References taken in increasing order, with `novaRef` the next one. -/
def Tomadas (refs : List Nat) (novaRef : Nat) : Prop := (refs ++ [novaRef]).Pairwise (· < ·)

section Tomadas

variable {refs resto : List Nat} {n m : Nat}

theorem Tomadas.nodup (h : Tomadas refs n) : refs.Nodup :=
  (List.pairwise_append.1 h).1.imp ne_of_lt

theorem Tomadas.sublist (h : Tomadas refs n) (less : resto.Sublist refs) : Tomadas resto n :=
  List.Pairwise.sublist (less.append_right _) h

theorem Tomadas.mono (h : Tomadas refs n) (later : n ≤ m) : Tomadas refs m := by
  obtain ⟨increasing, _, below⟩ := List.pairwise_append.1 h
  refine List.pairwise_append.2 ⟨increasing, List.pairwise_singleton _ _, ?_⟩
  intro x hx y hy
  rw [List.mem_singleton] at hy
  have old := below x hx n (List.mem_singleton_self _)
  omega

theorem Tomadas.nova (h : Tomadas refs n) : Tomadas (refs ++ [n]) (n + 1) := by
  refine List.pairwise_append.2 ⟨h, List.pairwise_singleton _ _, ?_⟩
  intro x hx y hy
  obtain ⟨_, _, below⟩ := List.pairwise_append.1 h
  rw [List.mem_append, List.mem_singleton] at hx
  rw [List.mem_singleton] at hy
  cases hx with
  | inl old =>
      have taken := below x old n (List.mem_singleton_self _)
      omega
  | inr new => omega

end Tomadas

variable {R : Type}

/-- The auctions of a company, the open one last. -/
def Ficha.leiloes (f : Ficha R) : List (Leilao R) :=
  f.empresa.historicoLeiloes ++ f.leilao.toList

def Ficha.emissoes (f : Ficha R) : List (Emissao R) :=
  f.empresa.historicoEmissoes ++ f.emissao.toList

structure Ficha.Identificada (f : Ficha R) : Prop where
  leiloes : Tomadas (f.leiloes.map (·.ref)) f.novaRef
  emissoes : Tomadas (f.emissoes.map (·.ref)) f.novaRef

variable [JavaFloat R] {c : String} {registadas : List String} {t : List (Momento R)}
  {f f' : Ficha R} {l : Passo R} {r : Resultado}

theorem Ficha.Passa.identificada (hs : f.Passa c l r f') (h : f.Identificada) :
    f'.Identificada := by
  obtain ⟨leiloes, emissoes⟩ := h
  have settled : Tomadas (f.empresa.historicoEmissoes.map (·.ref)) f.novaRef :=
    emissoes.sublist ((List.sublist_append_left _ _).map _)
  cases hs with
  | alheio outra depois => exact ⟨leiloes.mono depois, emissoes.mono depois⟩
  | leilao amb livre _ _ =>
      refine ⟨?_, ?_⟩
      · simpa [Ficha.leiloes, livre] using leiloes.nova
      · simpa [Ficha.emissoes] using emissoes.mono (Nat.le_succ _)
  | leilaoEspecial amb livre _ _ =>
      refine ⟨?_, ?_⟩
      · simpa [Ficha.leiloes, livre] using leiloes.nova
      · simpa [Ficha.emissoes] using emissoes.mono (Nat.le_succ _)
  | emissao amb _ _ _ =>
      refine ⟨?_, ?_⟩
      · simpa [Ficha.leiloes] using leiloes.mono (Nat.le_succ _)
      · simpa [Ficha.emissoes] using settled.nova
  | emissaoEspecial amb _ _ _ =>
      refine ⟨?_, ?_⟩
      · simpa [Ficha.leiloes] using leiloes.mono (Nat.le_succ _)
      · simpa [Ficha.emissoes] using settled.nova
  | _ => refine ⟨?_, ?_⟩ <;> simp_all [Ficha.leiloes, Ficha.emissoes]

theorem Ficha.Run.identificada (h : Ficha.Run c registadas t f) : f.Identificada := by
  refine Runs.Run.invariant (fun _ f => f.Identificada) h ?_ ?_
  · refine ⟨?_, ?_⟩ <;> exact List.pairwise_singleton _ _
  · intro t f l r f' _ ih hs
    exact hs.identificada ih

end PeerLanding
