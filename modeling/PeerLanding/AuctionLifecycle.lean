import PeerLanding.Identity

/-! The life of a company's auctions over whole runs: one settlement thread for the
open auction, histories filled in the order of opening, and every accepted bid in
one auction. -/

namespace PeerLanding

open Exchange

variable {R : Type} [JavaFloat R] {c : String} {registadas : List String}
  {t : List (Momento R)} {f f' : Ficha R} {l : Passo R} {r : Resultado}

def Ficha.porTerminar (c : String) (f : Ficha R) : List TerminaLeilao :=
  f.leilao.toList.map fun leilao => ⟨c, f.empresa.historicoLeiloes.length, leilao.ref⟩

theorem Ficha.Passa.terminaLeiloes (hs : f.Passa c l r f')
    (h : f.terminaLeiloes = f.porTerminar c) : f'.terminaLeiloes = f'.porTerminar c := by
  cases hs <;> simp_all [Ficha.porTerminar]

theorem Ficha.Run.terminaLeiloes (h : Ficha.Run c registadas t f) :
    f.terminaLeiloes = f.porTerminar c := by
  refine Runs.Run.invariant (fun _ f => f.terminaLeiloes = f.porTerminar c) h rfl ?_
  intro t f l r f' _ ih hs
  exact hs.terminaLeiloes ih

omit [JavaFloat R] in
/-- The thread that fires is the open auction's, with the position it will get. -/
theorem Ficha.thread_eq (waiting : f.terminaLeiloes = f.porTerminar c) {thread : TerminaLeilao}
    (por : thread ∈ f.terminaLeiloes) :
    ∃ leilao, f.leilao = some leilao ∧
      thread = ⟨c, f.empresa.historicoLeiloes.length, leilao.ref⟩ := by
  rw [waiting] at por
  simpa [Ficha.porTerminar, eq_comm] using por

theorem Ficha.Run.semDesfecho (h : Ficha.Run c registadas t f) :
    ∀ leilao ∈ f.leilao, leilao.sucesso = false := by
  refine Runs.Run.invariant (fun _ f => ∀ leilao ∈ f.leilao, leilao.sucesso = false) h ?_ ?_
  · intro leilao hl
    cases hl
  · intro t f l r f' _ ih hs
    cases hs <;> simp_all

theorem Ficha.Passa.leiloesAbertos (hs : f.Passa c l r f') (finito : l.finito = true)
    (h : leiloesAbertos c t = f.empresa.historicoLeiloes.length + f.leilao.toList.length) :
    leiloesAbertos c (t ++ [⟨f, l, r, f'⟩]) =
      f'.empresa.historicoLeiloes.length + f'.leilao.toList.length := by
  cases hs <;> simp_all [Momento.abriuLeilao]

theorem Ficha.Run.leiloesAbertos (h : Ficha.Run c registadas t f)
    (finitas : ∀ e ∈ t, e.label.finito = true) :
    leiloesAbertos c t = f.empresa.historicoLeiloes.length + f.leilao.toList.length := by
  refine Runs.Run.invariant_of_guard (fun t f => PeerLanding.leiloesAbertos c t =
    f.empresa.historicoLeiloes.length + f.leilao.toList.length) _ h finitas rfl ?_
  intro t f l r f' _ ih hs finito
  exact hs.leiloesAbertos finito ih

/-- The accepted bids, in order, are those of the settled auctions and of the open one. -/
def BidsInAuctions (c : String) (t : List (Momento R)) (f : Ficha R) : Prop :=
  licitacoesAceites c t =
    (leiloesTerminados c t ++ f.leilao.toList).flatMap (·.licitacoes)

theorem Ficha.Passa.bidsInAuctions (hs : f.Passa c l r f') (finito : l.finito = true)
    (h : BidsInAuctions c t f) : BidsInAuctions c (t ++ [⟨f, l, r, f'⟩]) f' := by
  unfold BidsInAuctions at *
  cases hs <;> simp_all [Momento.licitacaoAceite]

theorem Ficha.Run.bidsInAuctions (h : Ficha.Run c registadas t f)
    (finitas : ∀ e ∈ t, e.label.finito = true) : BidsInAuctions c t f := by
  refine Runs.Run.invariant_of_guard (BidsInAuctions c) _ h finitas rfl ?_
  intro t f l r f' _ ih hs finito
  exact hs.bidsInAuctions finito ih

theorem Ficha.Passa.historicoLeiloes (hs : f.Passa c l r f') :
    f.empresa.historicoLeiloes <+: f'.empresa.historicoLeiloes := by
  cases hs <;> simp

theorem getElem?_of_prefix {α : Type} {xs ys : List α} (h : xs <+: ys) {n : Nat} {x : α}
    (hx : xs[n]? = some x) : ys[n]? = some x := by
  obtain ⟨zs, rfl⟩ := h
  have inside := (List.getElem?_eq_some_iff.1 hx).1
  rw [List.getElem?_append_left inside, hx]

/-- A settlement thread of `c` has settled its auction, which stays in its position. -/
def Liquidado (c : String) (f : Ficha R) (e : Momento R) : Prop :=
  ∀ amb thread, e.label = .terminaLeilao amb thread → thread.empresa = c →
    ∃ leilao, e.pre.leilao = some leilao ∧ leilao.ref = thread.ref ∧
      f.empresa.historicoLeiloes[thread.idL]? = some (leilao.termina c thread.idL).1

theorem Ficha.Passa.liquidado (hs : f.Passa c l r f') (h : Ficha.Run c registadas t f) :
    Liquidado c f' ⟨f, l, r, f'⟩ := by
  intro amb thread label dela
  have waiting := h.terminaLeiloes
  cases hs with
  | terminaLeilao _ por _ aberto _ =>
      cases label
      obtain ⟨leilao, hl, hthread⟩ := Ficha.thread_eq waiting por
      cases aberto.symm.trans hl
      exact ⟨_, hl, by rw [hthread], by simp [hthread]⟩
  | terminaLeilaoEspecial _ por _ aberto _ =>
      cases label
      obtain ⟨leilao, hl, hthread⟩ := Ficha.thread_eq waiting por
      cases aberto.symm.trans hl
      exact ⟨_, hl, by rw [hthread], by simp [hthread]⟩
  | terminaLeilaoNulo _ por _ fechado =>
      obtain ⟨leilao, hl, _⟩ := Ficha.thread_eq waiting por
      cases fechado.symm.trans hl
  | alheio outra _ =>
      cases label
      exact absurd (congrArg some dela) outra
  | _ => cases label

theorem Liquidado.mono {e : Momento R} (h : Liquidado c f e)
    (grows : f.empresa.historicoLeiloes <+: f'.empresa.historicoLeiloes) :
    Liquidado c f' e := by
  intro amb thread label dela
  obtain ⟨leilao, aberto, ref, found⟩ := h amb thread label dela
  exact ⟨leilao, aberto, ref, getElem?_of_prefix grows found⟩

theorem Ficha.Run.liquidado (h : Ficha.Run c registadas t f) :
    ∀ e ∈ t, Liquidado c f e := by
  refine Runs.Run.invariant (fun t f => ∀ e ∈ t, Liquidado c f e) h ?_ ?_
  · intro e he
    cases he
  · intro t f l r f' run ih hs e he
    rw [List.mem_append, List.mem_singleton] at he
    cases he with
    | inl old => exact (ih e old).mono hs.historicoLeiloes
    | inr new => exact new ▸ hs.liquidado run

/-- A company's auctions after a run. At most one is open because `leilao` is an `Option`. -/
structure AuctionLifecycle (c : String) (t : List (Momento R)) (f : Ficha R) : Prop where
  distinct : (f.leiloes.map (·.ref)).Nodup
  waiting : f.terminaLeiloes = f.porTerminar c
  settled : ∀ e ∈ t, Liquidado c f e
  counted : leiloesAbertos c t = f.empresa.historicoLeiloes.length + f.leilao.toList.length
  bids : BidsInAuctions c t f

/-- The life of every hosted company's auctions, over every run with finite rates. -/
theorem auctionLifecycle [Gson R] {nomes : List String} {t : List (Transicao R)}
    {s : Sistema R} (hc : c ∈ nomes) (h : Sistema.Run nomes registadas t s)
    (finitas : ∀ e ∈ t, e.label.finito = true) :
    AuctionLifecycle c (percurso c t) (s.ficha c) := by
  have run := h.percurso hc
  have finitas' := percurso_finito c finitas
  exact ⟨run.identificada.leiloes.nodup, run.terminaLeiloes, run.liquidado,
    run.leiloesAbertos finitas', run.bidsInAuctions finitas'⟩

def auctionSteps : List (Passo Binary32) :=
  [.pedido (.em 1) (.leilao "CanecaLda" 1000 (.intBitsToFloat 0x3DCCCCCD)),
    .pedido (.em 2) (.licitar "CanecaLda" "ana" 600 (.intBitsToFloat 0x3D4CCCCD)),
    .pedido (.em 3) (.licitar "CanecaLda" "rui" 500 (.intBitsToFloat 0x3D23D70A)),
    .terminaLeilao (.em 4) ⟨"CanecaLda", 0, 0⟩]

theorem auctionSteps_taken :
    (Sistema.corrida ["CanecaLda", "SapatoLda"] Directory.nomes auctionSteps).isSome := by
  decide

theorem auctionLifecycle_caneca : ∃ (t : List (Transicao Binary32)) (s : Sistema Binary32),
    Sistema.Run ["CanecaLda", "SapatoLda"] Directory.nomes t s ∧ t.length = 4 ∧
      AuctionLifecycle "CanecaLda" (percurso "CanecaLda" t) (s.ficha "CanecaLda") := by
  have run := Sistema.run_corrida auctionSteps_taken
  have finitas := Sistema.labels_corrida auctionSteps_taken
    (show ∀ l ∈ auctionSteps, l.finito = true by decide)
  exact ⟨_, _, run, by decide, auctionLifecycle (by decide) run finitas⟩

end PeerLanding
