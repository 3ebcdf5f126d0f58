import PeerLanding.Identity

/-! The life of a company's emissions. `emissao` does not look at the emission that is
still open, so a second one takes its place; runs in which no `emissao` is accepted
then keep every emission, every loan and every settlement thread. -/

namespace PeerLanding

open Exchange

variable {R : Type} [JavaFloat R] {c : String} {registadas : List String}
  {t : List (Momento R)} {f f' : Ficha R} {l : Passo R} {r : Resultado}

/-- An `emissao` for `c` that passes its tests finds no open emission, and a finite rate. -/
def EmiteLivre (c : String) (e : Momento R) : Prop :=
  match e.label with
  | .pedido _ (.emissao d quantia) =>
      d = c → e.pre.empresa.PodeEmitir quantia →
        e.pre.emissao.isNone ∧
          ∀ taxa ∈ e.pre.empresa.taxaEmissao.toOption, JavaFloat.isFinite taxa = true
  | _ => True

instance (c : String) (e : Momento R) : Decidable (EmiteLivre c e) :=
  match e with
  | ⟨_, .pedido _ (.emissao _ _), _, _⟩ => inferInstanceAs (Decidable (_ → _ → _ ∧ _))
  | ⟨_, .pedido _ (.licitar _ _ _ _), _, _⟩ => .isTrue trivial
  | ⟨_, .pedido _ (.emprestimo _ _ _), _, _⟩ => .isTrue trivial
  | ⟨_, .pedido _ (.leilao _ _ _), _, _⟩ => .isTrue trivial
  | ⟨_, .pedido _ .outro, _, _⟩ => .isTrue trivial
  | ⟨_, .terminaLeilao _ _, _, _⟩ => .isTrue trivial
  | ⟨_, .terminaEmissao _ _, _, _⟩ => .isTrue trivial

def Ficha.emissoesPorTerminar (c : String) (f : Ficha R) : List TerminaEmissao :=
  f.emissao.toList.map fun emissao => ⟨c, f.empresa.historicoEmissoes.length, emissao.ref⟩

omit [JavaFloat R] in
theorem Ficha.emission_thread_eq (waiting : f.terminaEmissoes = f.emissoesPorTerminar c)
    {thread : TerminaEmissao} (por : thread ∈ f.terminaEmissoes) :
    ∃ emissao, f.emissao = some emissao ∧
      thread = ⟨c, f.empresa.historicoEmissoes.length, emissao.ref⟩ := by
  rw [waiting] at por
  simpa [Ficha.emissoesPorTerminar, eq_comm] using por

/-- A settlement thread of `c` takes out the emission it was started for. -/
def Retirada (c : String) (e : Momento R) : Prop :=
  ∀ amb thread, e.label = .terminaEmissao amb thread → thread.empresa = c →
    ∃ emissao, e.pre.emissao = some emissao ∧ emissao.ref = thread.ref

/-- A company's emissions after a run. -/
structure EmissionConservation (c : String) (t : List (Momento R)) (f : Ficha R) : Prop where
  distinct : (f.emissoes.map (·.ref)).Nodup
  counted : emissoesAbertas c t =
    f.empresa.historicoEmissoes.length + f.emissao.toList.length
  loans : emprestimosAceites c t =
    (f.empresa.historicoEmissoes ++ f.emissao.toList).flatMap (·.licitacoes)
  waiting : f.terminaEmissoes = f.emissoesPorTerminar c
  removed : ∀ e ∈ t, Retirada c e

section Passa

variable (hs : f.Passa c l r f') (livre : EmiteLivre c ⟨f, l, r, f'⟩)

include hs livre

theorem Ficha.Passa.emissoesAbertas
    (h : emissoesAbertas c t =
      f.empresa.historicoEmissoes.length + f.emissao.toList.length) :
    emissoesAbertas c (t ++ [⟨f, l, r, f'⟩]) =
      f'.empresa.historicoEmissoes.length + f'.emissao.toList.length := by
  cases hs <;> simp_all [Momento.abriuEmissao, EmiteLivre, Except.toOption]

theorem Ficha.Passa.emprestimosAceites
    (h : emprestimosAceites c t =
      (f.empresa.historicoEmissoes ++ f.emissao.toList).flatMap (·.licitacoes)) :
    emprestimosAceites c (t ++ [⟨f, l, r, f'⟩]) =
      (f'.empresa.historicoEmissoes ++ f'.emissao.toList).flatMap (·.licitacoes) := by
  cases hs <;> simp_all [Momento.emprestimoAceite, EmiteLivre, Except.toOption]

theorem Ficha.Passa.terminaEmissoes (h : f.terminaEmissoes = f.emissoesPorTerminar c) :
    f'.terminaEmissoes = f'.emissoesPorTerminar c := by
  cases hs <;> simp_all [Ficha.emissoesPorTerminar, EmiteLivre, Except.toOption]

omit livre in
theorem Ficha.Passa.retirada (h : f.terminaEmissoes = f.emissoesPorTerminar c) :
    Retirada c ⟨f, l, r, f'⟩ := by
  intro amb thread label dela
  cases hs with
  | alheio outra _ =>
      cases label
      exact absurd (congrArg some dela) outra
  | terminaEmissao _ por _ aberta =>
      cases label
      obtain ⟨emissao, started, hthread⟩ := Ficha.emission_thread_eq h por
      exact ⟨emissao, started, by rw [hthread]⟩
  | terminaEmissaoNula _ por _ fechada =>
      obtain ⟨emissao, aberta, _⟩ := Ficha.emission_thread_eq h por
      cases fechada.symm.trans aberta
  | _ => cases label

end Passa

theorem Ficha.Run.conserved (h : Ficha.Run c registadas t f)
    (livres : ∀ e ∈ t, EmiteLivre c e) : EmissionConservation c t f := by
  refine Runs.Run.invariant_of_guard (EmissionConservation c) _ h livres ?_ ?_
  · exact ⟨.nil, rfl, rfl, rfl, fun e he => by cases he⟩
  · intro t f l r f' run ih hs livre
    have identified := hs.identificada (Ficha.Run.identificada run)
    refine ⟨identified.emissoes.nodup, hs.emissoesAbertas livre ih.counted,
      hs.emprestimosAceites livre ih.loans, hs.terminaEmissoes livre ih.waiting, ?_⟩
    intro e he
    rw [List.mem_append, List.mem_singleton] at he
    cases he with
    | inl old => exact ih.removed e old
    | inr new => exact new ▸ hs.retirada ih.waiting

/-- Emissions, loans and settlement threads are conserved in every run in which `emissao`
is accepted only with no open emission and a finite rate. -/
theorem emissionConservation [Gson R] {nomes : List String} {t : List (Transicao R)}
    {s : Sistema R} (hc : c ∈ nomes) (h : Sistema.Run nomes registadas t s)
    (livres : ∀ e ∈ percurso c t, EmiteLivre c e) :
    EmissionConservation c (percurso c t) (s.ficha c) :=
  (h.percurso hc).conserved livres

/-- A funded auction, an emission with a loan, and a second emission before the first
one's settlement thread has fired. -/
def overlappingSteps : List (Passo Binary32) :=
  [.pedido (.em 1) (.leilao "CanecaLda" 1000 (.intBitsToFloat 0x3DCCCCCD)),
    .pedido (.em 2) (.licitar "CanecaLda" "ana" 1000 (.intBitsToFloat 0x3D4CCCCD)),
    .terminaLeilao (.em 3) ⟨"CanecaLda", 0, 0⟩,
    .pedido (.em 4) (.emissao "CanecaLda" 1000),
    .pedido (.em 5) (.emprestimo "CanecaLda" "rui" 100),
    .pedido (.em 6) (.emissao "CanecaLda" 1000),
    .terminaEmissao (.em 7) ⟨"CanecaLda", 0, 1⟩,
    .terminaEmissao (.em 8) ⟨"CanecaLda", 0, 2⟩]

theorem overlappingSteps_taken :
    (Sistema.corrida ["CanecaLda", "SapatoLda"] Directory.nomes overlappingSteps).isSome := by
  decide

/-- The first emission is gone, and its loan with it. -/
theorem emissionConservation_overlap : ∃ (t : List (Transicao Binary32)) (s : Sistema Binary32),
    Sistema.Run ["CanecaLda", "SapatoLda"] Directory.nomes t s ∧
      emissoesAbertas "CanecaLda" (percurso "CanecaLda" t) ≠
        (s.ficha "CanecaLda").empresa.historicoEmissoes.length +
          (s.ficha "CanecaLda").emissao.toList.length ∧
      emprestimosAceites "CanecaLda" (percurso "CanecaLda" t) ≠
        (s.ficha "CanecaLda").emissoes.flatMap (·.licitacoes) :=
  ⟨_, _, Sistema.run_corrida overlappingSteps_taken, by decide, by decide⟩

def separateSteps : List (Passo Binary32) :=
  overlappingSteps.take 5 ++ [.terminaEmissao (.em 6) ⟨"CanecaLda", 0, 1⟩,
    .pedido (.em 7) (.emissao "CanecaLda" 1000)]

theorem separateSteps_taken :
    (Sistema.corrida ["CanecaLda", "SapatoLda"] Directory.nomes separateSteps).isSome := by
  decide

theorem emissionConservation_separate :
    ∃ (t : List (Transicao Binary32)) (s : Sistema Binary32),
      Sistema.Run ["CanecaLda", "SapatoLda"] Directory.nomes t s ∧ t.length = 7 ∧
        EmissionConservation "CanecaLda" (percurso "CanecaLda" t) (s.ficha "CanecaLda") :=
  ⟨_, _, Sistema.run_corrida separateSteps_taken, by decide,
    emissionConservation (by decide) (Sistema.run_corrida separateSteps_taken) (by decide)⟩

end PeerLanding
