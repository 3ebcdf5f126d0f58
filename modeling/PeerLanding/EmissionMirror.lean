import PeerLanding.EmissionLifecycle
import PeerLanding.Views

/-! The Directory's records of a company's emissions. A record is addressed by the
number of settled emissions, so a second open emission would share the position of the
first; while emissions do not overlap the Directory mirrors them. -/

namespace PeerLanding

open Exchange

variable {R : Type} [JavaFloat R] {c : String} {registadas : List String}
  {t : List (Momento R)} {f f' : Ficha R} {l : Passo R} {r : Resultado}

def Ficha.vistaEmissoes (f : Ficha R) : List (Vista R) :=
  f.empresa.historicoEmissoes.mapIdx (fun i emissao => emissao.vista i false) ++
    f.emissao.toList.map fun emissao => emissao.vista f.empresa.historicoEmissoes.length true

/-- The update `g` reaches the record that was appended for the emission `ref`. -/
def ReachesEmission (publicadas : List Nat) (ref n : Nat)
    (g : Directory.Emissao R → Directory.Emissao R) (antes depois : Option (Directory.Empresa R)) :
    Prop :=
  ∃ registo, antes = some registo ∧ n < registo.historicoEmissoes.length ∧
    publicadas[n]? = some ref ∧ depois = some (registo.naEmissao n g)

/-- Where the calls of a step of `c` about an emission go, after the steps `u`. -/
structure OwnEmission (c : String) (u : List (Momento R)) (e : Momento R) : Prop where
  emprestimo : ∀ amb investidor quantia,
    e.label = .pedido amb (.emprestimo c investidor quantia) → e.result = .resposta true →
    ∃ emissao n, e.pre.emissao = some emissao ∧
      ReachesEmission (emissoesPublicadas c u) emissao.ref n
        (Directory.Emissao.recebe
          ⟨emissao.licitacoes.length, investidor, JavaFloat.zero, quantia⟩)
        e.pre.registo e.post.registo
  desfecho : ∀ amb thread, e.label = .terminaEmissao amb thread → thread.empresa = c →
    ∃ emissao n, e.pre.emissao = some emissao ∧ emissao.ref = thread.ref ∧
      ReachesEmission (emissoesPublicadas c u) emissao.ref n
        (Directory.Emissao.encerra (emissao.termina c n).2.recebido)
        e.pre.registo e.post.registo

/-- The invariant: the records are the emissions, in the order in which they were opened. -/
structure Aligned (c : String) (t : List (Momento R)) (f : Ficha R) : Prop where
  waiting : f.terminaEmissoes = f.emissoesPorTerminar c
  owners : emissoesPublicadas c t =
    (f.empresa.historicoEmissoes ++ f.emissao.toList).map (·.ref)
  views : ∃ registo, f.registo = some registo ∧
    registo.historicoEmissoes.map Directory.Emissao.vista = f.vistaEmissoes

theorem Ficha.Passa.emissoesPublicadas (hs : f.Passa c l r f')
    (livre : EmiteLivre c ⟨f, l, r, f'⟩)
    (entregue : l.empresa = some c → l.entregue = true)
    (h : emissoesPublicadas c t =
      (f.empresa.historicoEmissoes ++ f.emissao.toList).map (·.ref)) :
    emissoesPublicadas c (t ++ [⟨f, l, r, f'⟩]) =
      (f'.empresa.historicoEmissoes ++ f'.emissao.toList).map (·.ref) := by
  cases hs <;> simp_all [Momento.emissaoPublicada, EmiteLivre, Except.toOption]

theorem Ficha.Passa.vistaEmissoes (hs : f.Passa c l r f')
    (livre : EmiteLivre c ⟨f, l, r, f'⟩)
    (entregue : l.empresa = some c → l.entregue = true)
    (waiting : f.terminaEmissoes = f.emissoesPorTerminar c)
    (h : ∃ registo, f.registo = some registo ∧
      registo.historicoEmissoes.map Directory.Emissao.vista = f.vistaEmissoes) :
    ∃ registo, f'.registo = some registo ∧
      registo.historicoEmissoes.map Directory.Emissao.vista = f'.vistaEmissoes := by
  obtain ⟨registo, hr, hv⟩ := h
  unfold Ficha.vistaEmissoes at hv
  cases hs with
  | alheio _ _ => exact ⟨registo, hr, hv⟩
  | recusa _ _ => exact ⟨registo, hr, hv⟩
  | emissao amb pode preco finito =>
      have sent : amb.entregue = true := entregue rfl
      have free : f.emissao = none := by
        simpa using (livre rfl pode).1
      refine Ficha.exists_relata_registo sent hr ?_
      simp only [free, Option.toList_none, List.map_nil, List.append_nil] at hv
      simp [Ficha.vistaEmissoes, hv, Directory.Emissao.vista, Emissao.vista]
  | emissaoEspecial _ pode preco especial =>
      simp_all [EmiteLivre, Except.toOption]
  | @emprestimo amb investidor quantia emissao aberta _ =>
      have sent : amb.entregue = true := entregue rfl
      refine Ficha.exists_relata_registo sent hr ?_
      simp only [aberta, Option.toList_some, List.map_singleton] at hv
      have last := map_modify_last hv fun registado hl =>
        Emissao.recebe_vista hl emissao.licitacoes.length (.semTaxa investidor quantia)
      simpa [Ficha.vistaEmissoes, Licitacao.semTaxa] using last
  | @terminaEmissao amb thread emissao por dela aberta =>
      have sent : amb.entregue = true := entregue (by simp [dela])
      obtain ⟨_, _, hthread⟩ := Ficha.emission_thread_eq waiting por
      have position : thread.idL = f.empresa.historicoEmissoes.length := by rw [hthread]
      refine Ficha.exists_relata_registo sent hr ?_
      simp only [aberta, Option.toList_some, List.map_singleton] at hv
      have last := map_modify_last hv fun registado hl =>
        Emissao.termina_vista hl c thread.idL
      simpa [Ficha.vistaEmissoes, position] using last
  | terminaEmissaoNula _ por _ fechada =>
      obtain ⟨emissao, aberta, _⟩ := Ficha.emission_thread_eq waiting por
      cases fechada.symm.trans aberta
  | leilao amb _ _ _ =>
      have sent : amb.entregue = true := entregue rfl
      exact Ficha.exists_relata_registo sent hr (by simpa [Ficha.vistaEmissoes] using hv)
  | licitar amb _ _ _ _ =>
      have sent : amb.entregue = true := entregue rfl
      exact Ficha.exists_relata_registo sent hr (by simpa [Ficha.vistaEmissoes] using hv)
  | terminaLeilao amb _ dela _ _ =>
      have sent : amb.entregue = true := entregue (by simp [dela])
      exact Ficha.exists_relata_registo sent hr (by simpa [Ficha.vistaEmissoes] using hv)
  | _ => exact ⟨registo, hr, by simpa [Ficha.vistaEmissoes] using hv⟩

omit [JavaFloat R] in
theorem Aligned.reachesEmission (h : Aligned c t f) {emissao : Emissao R}
    (aberta : f.emissao = some emissao) (g : Directory.Emissao R → Directory.Emissao R) :
    ReachesEmission (emissoesPublicadas c t) emissao.ref f.empresa.historicoEmissoes.length g
      f.registo (f.registo.map fun registo =>
        registo.naEmissao f.empresa.historicoEmissoes.length g) := by
  obtain ⟨registo, hr, hv⟩ := h.views
  have count : registo.historicoEmissoes.length = f.empresa.historicoEmissoes.length + 1 := by
    simpa [Ficha.vistaEmissoes, aberta] using congrArg List.length hv
  refine ⟨registo, hr, by omega, ?_, by rw [hr, Option.map_some]⟩
  rw [h.owners, aberta]
  simp

theorem Ficha.Passa.ownEmission (hs : f.Passa c l r f')
    (entregue : l.empresa = some c → l.entregue = true) (h : Aligned c t f) :
    OwnEmission c t ⟨f, l, r, f'⟩ := by
  refine ⟨?_, ?_⟩
  · intro amb investidor quantia label result
    cases hs with
    | emprestimo _ _ aberta _ =>
        cases label
        have sent : amb.entregue = true := entregue rfl
        have reached := h.reachesEmission aberta
        refine ⟨_, f.empresa.historicoEmissoes.length, aberta, ?_⟩
        simp only [Ficha.relata_registo, if_pos sent]
        exact reached _
    | alheio outra _ =>
        cases label
        exact absurd rfl outra
    | _ => cases label <;> cases result
  · intro amb thread label dela
    cases hs with
    | terminaEmissao _ por _ aberta =>
        cases label
        obtain ⟨emissao, open_one, hthread⟩ := Ficha.emission_thread_eq h.waiting por
        cases open_one.symm.trans aberta
        have sent : amb.entregue = true := entregue (by simp [dela])
        have reached := h.reachesEmission aberta
        refine ⟨_, f.empresa.historicoEmissoes.length, aberta, by rw [hthread], ?_⟩
        simp only [Ficha.relata_registo, if_pos sent, hthread]
        exact reached _
    | terminaEmissaoNula _ por _ fechada =>
        obtain ⟨emissao, aberta, _⟩ := Ficha.emission_thread_eq h.waiting por
        cases fechada.symm.trans aberta
    | alheio outra _ =>
        cases label
        exact absurd (congrArg some dela) outra
    | _ => cases label

omit [JavaFloat R] in
theorem Ficha.vistaEmissoes_id {i : Nat} {v : Vista R} (h : f.vistaEmissoes[i]? = some v) :
    v.id = i := by
  unfold Ficha.vistaEmissoes at h
  rw [List.getElem?_append] at h
  split_ifs at h with settled
  · rw [List.getElem?_mapIdx, Option.map_eq_some_iff] at h
    obtain ⟨emissao, _, rfl⟩ := h
    rfl
  · cases aberta : f.emissao with
    | none => simp [aberta] at h
    | some emissao =>
        simp only [aberta, List.length_mapIdx, Option.toList_some, List.map_singleton,
          List.getElem?_singleton, Option.ite_none_right_eq_some, Option.some.injEq] at h
        obtain ⟨last, rfl⟩ := h
        simp only [List.length_mapIdx] at settled
        simp only [Emissao.vista]
        omega

omit [JavaFloat R] in
theorem Aligned.ids (h : Aligned c t f) (registo : Directory.Empresa R)
    (hr : registo ∈ f.registo) (i : Nat) (emissao : Directory.Emissao R)
    (hi : registo.historicoEmissoes[i]? = some emissao) : emissao.id = i := by
  obtain ⟨registo', hr', hv⟩ := h.views
  cases hr.symm.trans hr'
  have seen : f.vistaEmissoes[i]? = some emissao.vista := by
    rw [← hv, List.getElem?_map, hi, Option.map_some]
  exact f.vistaEmissoes_id seen

theorem nodup_of_getElem?_eq {xs : List Int} (h : ∀ (i : Nat) x, xs[i]? = some x → x = i) :
    xs.Nodup := by
  rw [List.nodup_iff_injective_getElem]
  intro i j hij
  have hi := h i _ (List.getElem?_eq_getElem i.isLt)
  have hj := h j _ (List.getElem?_eq_getElem j.isLt)
  have same : (i.val : Int) = j.val := by
    rw [← hi, ← hj]
    exact hij
  exact Fin.ext (by omega)

/-- The Directory's records of a company's emissions after a run. -/
structure EmissionMirror (c : String) (t : List (Momento R)) (f : Ficha R) : Prop where
  owners : (emissoesPublicadas c t).Nodup
  updates : ∀ u e, u ++ [e] <+: t → OwnEmission c u e
  ids : ∀ registo ∈ f.registo, ∀ (i : Nat) (emissao : Directory.Emissao R),
    registo.historicoEmissoes[i]? = some emissao → emissao.id = i
  distinct : ∀ registo ∈ f.registo, (registo.historicoEmissoes.map (·.id)).Nodup

/-- A step that keeps the records aligned: delivered, and no overlapping emission. -/
def Alinha (c : String) (e : Momento R) : Prop :=
  EmiteLivre c e ∧ (e.label.empresa = some c → e.label.entregue = true)

theorem Ficha.Run.aligned (h : Ficha.Run c registadas t f) (hd : c ∈ registadas)
    (alinham : ∀ e ∈ t, Alinha c e) : Aligned c t f := by
  refine Runs.Run.invariant_of_guard (Aligned c) _ h alinham ?_ ?_
  · exact ⟨rfl, rfl, Directory.Empresa.novo c, by simp [Ficha.inicial, Directory.vazio, hd], rfl⟩
  · intro t f l r f' _ ih hs alinha
    exact ⟨hs.terminaEmissoes alinha.1 ih.waiting,
      hs.emissoesPublicadas alinha.1 alinha.2 ih.owners,
      hs.vistaEmissoes alinha.1 alinha.2 ih.waiting ih.views⟩

theorem Ficha.Run.emissionsMirrored (h : Ficha.Run c registadas t f) (hd : c ∈ registadas)
    (alinham : ∀ e ∈ t, Alinha c e) : EmissionMirror c t f := by
  have aligned := h.aligned hd alinham
  have identified := Ficha.Run.identificada h
  refine ⟨aligned.owners ▸ identified.emissoes.nodup, ?_, aligned.ids, ?_⟩
  · intro u e he
    have taken := h.of_concat he
    have inside : ∀ x ∈ u, Alinha c x := fun x hx =>
      alinham x (he.subset (List.mem_append_left _ hx))
    have last : Alinha c e := alinham e (he.subset (by simp))
    exact taken.2.ownEmission last.2 (Ficha.Run.aligned taken.1 hd inside)
  · intro registo hr
    refine nodup_of_getElem?_eq fun i x hx => ?_
    rw [List.getElem?_map, Option.map_eq_some_iff] at hx
    obtain ⟨emissao, hi, rfl⟩ := hx
    exact aligned.ids registo hr i emissao hi

/-- With every call delivered, the Directory keeps loans and outcomes with their own
emission in every run in which `emissao` is accepted only with no open emission and a
finite rate. -/
theorem emissionMirror [Gson R] {nomes : List String} {t : List (Transicao R)}
    {s : Sistema R} (hc : c ∈ nomes) (hd : c ∈ registadas)
    (h : Sistema.Run nomes registadas t s)
    (entregues : ∀ e ∈ t, e.label.empresa = some c → e.label.entregue = true)
    (livres : ∀ e ∈ percurso c t, EmiteLivre c e) :
    EmissionMirror c (percurso c t) (s.ficha c) := by
  refine (h.percurso hc).emissionsMirrored hd fun e he => ⟨livres e he, ?_⟩
  obtain ⟨e', he', rfl⟩ := List.mem_map.1 he
  exact entregues e' he'

theorem overlapping_registo :
    (((Sistema.corrida ["CanecaLda", "SapatoLda"] Directory.nomes overlappingSteps).get
      overlappingSteps_taken).2.ficha "CanecaLda").registo.isSome := by decide

/-- Both emissions have a record, with the same id. -/
theorem emissionMirror_overlap :
    ∃ (t : List (Transicao Binary32)) (s : Sistema Binary32)
      (registo : Directory.Empresa Binary32),
      Sistema.Run ["CanecaLda", "SapatoLda"] Directory.nomes t s ∧
        (∀ e ∈ t, e.label.entregue = true) ∧
        (s.ficha "CanecaLda").registo = some registo ∧
        ¬(registo.historicoEmissoes.map (·.id)).Nodup := by
  have entregues := Sistema.labels_corrida overlappingSteps_taken
    (show ∀ l ∈ overlappingSteps, l.entregue = true by decide)
  exact ⟨_, _, _, Sistema.run_corrida overlappingSteps_taken, entregues,
    (Option.some_get overlapping_registo).symm, by decide⟩

theorem emissionMirror_separate :
    ∃ (t : List (Transicao Binary32)) (s : Sistema Binary32),
      Sistema.Run ["CanecaLda", "SapatoLda"] Directory.nomes t s ∧ t.length = 7 ∧
        EmissionMirror "CanecaLda" (percurso "CanecaLda" t) (s.ficha "CanecaLda") := by
  have entregues := Sistema.labels_corrida separateSteps_taken
    (show ∀ l ∈ separateSteps, l.empresa = some "CanecaLda" → l.entregue = true by decide)
  exact ⟨_, _, Sistema.run_corrida separateSteps_taken, by decide,
    emissionMirror (by decide) (by decide) (Sistema.run_corrida separateSteps_taken)
      entregues (by decide)⟩

end PeerLanding
