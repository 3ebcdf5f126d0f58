import PeerLanding.Exchange.Specs
import PeerLanding.Exchange.Steps

/-! All the state about one company, as `Ficha`, and what the steps leave alone: a step
about another company spares it, and requests change neither which companies are hosted
nor, while they are answered, the loop. -/

namespace PeerLanding

open Exchange

variable {R : Type}

structure Ficha (R : Type) where
  empresa : Empresa R
  leilao : Option (Leilao R)
  emissao : Option (Emissao R)
  terminaLeiloes : List TerminaLeilao
  terminaEmissoes : List TerminaEmissao
  novaRef : Nat
  registo : Option (Directory.Empresa R)

namespace Ficha

/-- The call of a step about this company, if it gets through. -/
def relata (f : Ficha R) (amb : Ambiente)
    (g : Directory.Empresa R → Directory.Empresa R) : Ficha R :=
  if amb.entregue then { f with registo := f.registo.map g } else f

variable (f : Ficha R) (amb : Ambiente) (g : Directory.Empresa R → Directory.Empresa R)

@[simp] theorem relata_empresa : (f.relata amb g).empresa = f.empresa := by
  unfold relata; split <;> rfl

@[simp] theorem relata_leilao : (f.relata amb g).leilao = f.leilao := by
  unfold relata; split <;> rfl

@[simp] theorem relata_emissao : (f.relata amb g).emissao = f.emissao := by
  unfold relata; split <;> rfl

@[simp] theorem relata_terminaLeiloes :
    (f.relata amb g).terminaLeiloes = f.terminaLeiloes := by
  unfold relata; split <;> rfl

@[simp] theorem relata_terminaEmissoes :
    (f.relata amb g).terminaEmissoes = f.terminaEmissoes := by
  unfold relata; split <;> rfl

@[simp] theorem relata_novaRef : (f.relata amb g).novaRef = f.novaRef := by
  unfold relata; split <;> rfl

theorem relata_registo : (f.relata amb g).registo =
    if amb.entregue then f.registo.map g else f.registo := by
  unfold relata; split <;> rfl

variable {f amb g} in
theorem exists_relata_registo {registo : Directory.Empresa R}
    {P : Directory.Empresa R → Prop} (sent : amb.entregue = true) (hr : f.registo = some registo)
    (h : P (g registo)) : ∃ registo, (f.relata amb g).registo = some registo ∧ P registo := by
  rw [relata_registo, if_pos sent, hr, Option.map_some]
  exact ⟨g registo, rfl, h⟩

end Ficha

def Exchange.Passo.empresa : Passo R → Option String
  | .pedido _ (.licitar c _ _ _) => some c
  | .pedido _ (.emprestimo c _ _) => some c
  | .pedido _ (.emissao c _) => some c
  | .pedido _ (.leilao c _ _) => some c
  | .pedido _ .outro => none
  | .terminaLeilao _ thread => some thread.empresa
  | .terminaEmissao _ thread => some thread.empresa

section Empresas

variable (amb : Ambiente) (c investidor : String) (quantia : Int32) (juro : R)

@[simp] theorem Exchange.Passo.empresa_licitar :
    (Passo.pedido amb (.licitar c investidor quantia juro)).empresa = some c := rfl

@[simp] theorem Exchange.Passo.empresa_emprestimo :
    (Passo.pedido (R := R) amb (.emprestimo c investidor quantia)).empresa = some c := rfl

@[simp] theorem Exchange.Passo.empresa_emissao :
    (Passo.pedido (R := R) amb (.emissao c quantia)).empresa = some c := rfl

@[simp] theorem Exchange.Passo.empresa_leilao :
    (Passo.pedido amb (.leilao c quantia juro)).empresa = some c := rfl

@[simp] theorem Exchange.Passo.empresa_terminaLeilao (thread : TerminaLeilao) :
    (Passo.terminaLeilao (R := R) amb thread).empresa = some thread.empresa := rfl

@[simp] theorem Exchange.Passo.empresa_terminaEmissao (thread : TerminaEmissao) :
    (Passo.terminaEmissao (R := R) amb thread).empresa = some thread.empresa := rfl

end Empresas

namespace Sistema

def ficha (s : Sistema R) (c : String) : Ficha R where
  empresa := (s.empresas c).getD (Empresa.novo c)
  leilao := s.leiloes c
  emissao := s.emissoes c
  terminaLeiloes := s.terminaLeiloes.filter (·.empresa = c)
  terminaEmissoes := s.terminaEmissoes.filter (·.empresa = c)
  novaRef := s.novaRef
  registo := s.diretorio c

section Relata

variable (s : Sistema R) (amb : Ambiente) (c : String)
  (g : Directory.Empresa R → Directory.Empresa R)

theorem relata_vivo : (s.relata amb c g).vivo = s.vivo := by
  unfold relata
  split <;> rfl

theorem relata_empresas : (s.relata amb c g).empresas = s.empresas := by
  unfold relata
  split <;> rfl

theorem relata_novaRef : (s.relata amb c g).novaRef = s.novaRef := by
  unfold relata
  split <;> rfl

theorem relata_ficha_self : (s.relata amb c g).ficha c = (s.ficha c).relata amb g := by
  unfold relata Ficha.relata
  split <;> simp [ficha]

theorem relata_ficha_other {c d : String} (h : c ≠ d) :
    (s.relata amb d g).ficha c = s.ficha c := by
  unfold relata
  split <;> simp [ficha, Function.update_of_ne h]

end Relata

/-- Nothing about the company has changed, but others may have taken new references. -/
structure Poupa (c : String) (s s' : Sistema R) : Prop where
  novaRef : s.novaRef ≤ s'.novaRef
  empresa : s'.empresas c = s.empresas c
  ficha : s'.ficha c = { s.ficha c with novaRef := s'.novaRef }

/-- What a program about `empresa` leaves alone: the loop, the hosting of companies, and
everything about the other companies. -/
structure Toca (empresa : Option String) (s s' : Sistema R) : Prop where
  vivo : s'.vivo = s.vivo
  hospeda : ∀ c, (s.empresas c).isSome → (s'.empresas c).isSome
  poupa : ∀ c, empresa ≠ some c → Poupa c s s'

variable {s s' m : Sistema R} {c d : String} {empresa : Option String}

theorem Poupa.trans (h : Poupa c s m) (h' : Poupa c m s') : Poupa c s s' :=
  ⟨h.novaRef.trans h'.novaRef, h'.empresa.trans h.empresa, by rw [h'.ficha, h.ficha]⟩

theorem Toca.refl (empresa : Option String) (s : Sistema R) : Toca empresa s s :=
  ⟨rfl, fun _ he => he, fun _ _ => ⟨le_rfl, rfl, rfl⟩⟩

theorem Toca.trans (h : Toca empresa s m) (h' : Toca empresa m s') : Toca empresa s s' :=
  ⟨h'.vivo.trans h.vivo, fun c he => h'.hospeda c (h.hospeda c he),
    fun c hc => (h.poupa c hc).trans (h'.poupa c hc)⟩

theorem toca_of_empresas (empresas : s'.empresas = s.empresas) (vivo : s'.vivo = s.vivo)
    (novaRef : s.novaRef ≤ s'.novaRef)
    (ficha : ∀ c, d ≠ c → s'.ficha c = { s.ficha c with novaRef := s'.novaRef }) :
    Toca (some d) s s' := by
  refine ⟨vivo, fun c he => by rwa [empresas], fun c hc => ⟨novaRef, by rw [empresas], ?_⟩⟩
  exact ficha c (by simpa using hc)

theorem toca_of_update {nova : Empresa R}
    (empresas : s'.empresas = Function.update s.empresas d (some nova))
    (vivo : s'.vivo = s.vivo) (novaRef : s'.novaRef = s.novaRef)
    (ficha : ∀ c, d ≠ c → s'.ficha c = s.ficha c) : Toca (some d) s s' := by
  refine ⟨vivo, fun c he => ?_, fun c hc => ⟨novaRef.ge, ?_, ?_⟩⟩
  · rw [empresas, Function.update_apply]
    split_ifs
    · rfl
    · exact he
  · rw [empresas, Function.update_of_ne fun same => hc (congrArg some same.symm)]
  · rw [ficha c (by simpa using hc), novaRef]
    rfl

theorem toca_erase_terminaLeilao (thread : TerminaLeilao) :
    Toca (some thread.empresa) s
      { s with terminaLeiloes := s.terminaLeiloes.erase thread } := by
  refine toca_of_empresas rfl rfl le_rfl fun c hc => ?_
  have absent : thread ∉ s.terminaLeiloes.filter (·.empresa = c) := by simp [hc]
  simp [ficha, ← List.erase_filter, List.erase_of_not_mem absent]

theorem toca_erase_terminaEmissao (thread : TerminaEmissao) :
    Toca (some thread.empresa) s
      { s with terminaEmissoes := s.terminaEmissoes.erase thread } := by
  refine toca_of_empresas rfl rfl le_rfl fun c hc => ?_
  have absent : thread ∉ s.terminaEmissoes.filter (·.empresa = c) := by simp [hc]
  simp [ficha, ← List.erase_filter, List.erase_of_not_mem absent]

theorem Toca.relata (h : Toca (some d) s s') (amb : Ambiente)
    (g : Directory.Empresa R → Directory.Empresa R) : Toca (some d) s (s'.relata amb d g) := by
  refine ⟨by rw [relata_vivo, h.vivo], fun c he => ?_, fun c hc => ?_⟩
  · rw [relata_empresas]
    exact h.hospeda c he
  · have spared := h.poupa c hc
    refine ⟨?_, by rw [relata_empresas, spared.empresa], ?_⟩
    · rw [relata_novaRef]
      exact spared.novaRef
    · rw [relata_ficha_other _ _ _ fun same => hc (congrArg some same.symm), relata_novaRef]
      exact spared.ficha

variable [JavaFloat R] [Gson R] {amb : Ambiente}

section Pedidos

variable {investidor : String} {quantia : Int32} {juro : R}

theorem licitar_toca :
    Toca (some d) s (Java.state ((licitar amb d investidor quantia juro).run s)) := by
  by_cases ha : ∃ leilao, s.leiloes d = some leilao ∧ leilao.Aceita quantia juro
  · obtain ⟨leilao, hl, ha⟩ := ha
    have opened (novo : Leilao R) :
        Toca (some d) s { s with leiloes := Function.update s.leiloes d (some novo) } :=
      toca_of_empresas rfl rfl le_rfl fun c hc => by simp [ficha, Function.update_of_ne hc.symm]
    rw [licitar_aceita hl ha]
    cases s.empresas d with
    | none => exact opened _
    | some empresa =>
        cases JavaFloat.isFinite juro with
        | true => exact (opened _).relata _ _
        | false => exact opened _
  · rw [licitar_rejeita (by simpa using ha)]
    exact .refl _ s

theorem emprestimo_toca :
    Toca (some d) s (Java.state ((emprestimo amb d investidor quantia).run s)) := by
  by_cases ha : s.emissoes d = none ∨ quantia % 100 ≠ 0
  · rw [emprestimo_rejeita ha]
    exact .refl _ s
  · rw [not_or, not_not, ← ne_eq, Option.ne_none_iff_exists'] at ha
    obtain ⟨⟨emissao, hl⟩, multiplo⟩ := ha
    have lent (nova : Emissao R) :
        Toca (some d) s { s with emissoes := Function.update s.emissoes d (some nova) } :=
      toca_of_empresas rfl rfl le_rfl fun c hc => by simp [ficha, Function.update_of_ne hc.symm]
    rw [emprestimo_aceita hl multiplo]
    cases s.empresas d with
    | none => exact lent _
    | some empresa => exact (lent _).relata _ _

theorem emissao_toca : Toca (some d) s (Java.state ((emissao amb d quantia).run s)) := by
  by_cases ha : ∃ empresa, s.empresas d = some empresa ∧ empresa.PodeEmitir quantia
  · obtain ⟨empresa, he, pode⟩ := ha
    obtain ⟨taxa, preco⟩ := Empresa.taxaEmissao_ok pode
    rw [emissao_aceita he pode preco]
    have issued (nova : Emissao R) (idL : Nat) : Toca (some d) s { s with
        novaRef := s.novaRef + 1
        emissoes := Function.update s.emissoes d (some nova)
        terminaEmissoes := s.terminaEmissoes ++ [⟨d, idL, s.novaRef⟩] } :=
      toca_of_empresas rfl rfl (Nat.le_succ _) fun c hc => by
        simp [ficha, Function.update_of_ne hc.symm, hc]
    cases JavaFloat.isFinite taxa with
    | true => exact (issued _ _).relata _ _
    | false => exact issued _ _
  · rw [emissao_rejeita (by simpa using ha)]
    exact .refl _ s

theorem leilao_toca : Toca (some d) s (Java.state ((leilao amb d quantia juro).run s)) := by
  by_cases ha : s.leiloes d = none ∧ quantia % 1000 = 0
  · rw [leilao_aceita ha.1 ha.2]
    have opened (novo : Leilao R) (threads : List TerminaLeilao)
        (mine : ∀ thread ∈ threads, thread.empresa = d) : Toca (some d) s { s with
        novaRef := s.novaRef + 1
        leiloes := Function.update s.leiloes d (some novo)
        terminaLeiloes := s.terminaLeiloes ++ threads } :=
      toca_of_empresas rfl rfl (Nat.le_succ _) fun c hc => by
        have none_other : threads.filter (·.empresa = c) = [] := by
          simpa using fun thread ht => mine thread ht ▸ hc
        simp [ficha, Function.update_of_ne hc.symm, none_other]
    cases s.empresas d with
    | none => simpa using opened (.novo s.novaRef juro quantia d amb.agora) [] (by simp)
    | some empresa =>
        cases JavaFloat.isFinite juro with
        | true => exact (opened _ _ (by simp)).relata _ _
        | false => exact opened _ _ (by simp)
  · rw [leilao_rejeita (by tauto)]
    exact .refl _ s

theorem atende_toca (s : Sistema R) (amb : Ambiente) (p : Pedido R) :
    Toca (Passo.pedido amb p).empresa s (Java.state ((atende amb p).run s)) := by
  cases p with
  | licitar d investidor quantia juro => exact licitar_toca
  | emprestimo d investidor quantia => exact emprestimo_toca
  | emissao d quantia => exact emissao_toca
  | leilao d quantia juro => exact leilao_toca
  | outro => exact .refl _ s

end Pedidos

theorem terminaLeilao_toca (thread : TerminaLeilao) :
    Toca (some thread.empresa) s (Java.state ((thread.run amb).run s)) := by
  have closed : Toca (some thread.empresa) s
      { s with leiloes := Function.update s.leiloes thread.empresa none } :=
    toca_of_empresas rfl rfl le_rfl fun c hc => by simp [ficha, Function.update_of_ne hc.symm]
  cases hl : s.leiloes thread.empresa with
  | none => exact terminaLeilao_nulo hl ▸ closed
  | some leilao =>
      have settled (nova : Empresa R) : Toca (some thread.empresa) s { s with
          leiloes := Function.update s.leiloes thread.empresa none
          empresas := Function.update s.empresas thread.empresa (some nova) } :=
        toca_of_update rfl rfl rfl fun c hc => by simp [ficha, Function.update_of_ne hc.symm]
      rw [terminaLeilao_run hl]
      cases s.empresas thread.empresa with
      | none => exact closed
      | some empresa =>
          dsimp only
          split_ifs
          · exact (settled _).relata _ _
          · exact settled _

theorem terminaEmissao_toca (thread : TerminaEmissao) :
    Toca (some thread.empresa) s (Java.state ((thread.run amb).run s)) := by
  have closed : Toca (some thread.empresa) s
      { s with emissoes := Function.update s.emissoes thread.empresa none } :=
    toca_of_empresas rfl rfl le_rfl fun c hc => by simp [ficha, Function.update_of_ne hc.symm]
  cases hl : s.emissoes thread.empresa with
  | none => exact terminaEmissao_nulo hl ▸ closed
  | some emissao =>
      have settled (nova : Empresa R) : Toca (some thread.empresa) s { s with
          emissoes := Function.update s.emissoes thread.empresa none
          empresas := Function.update s.empresas thread.empresa (some nova) } :=
        toca_of_update rfl rfl rfl fun c hc => by simp [ficha, Function.update_of_ne hc.symm]
      rw [terminaEmissao_run hl]
      cases s.empresas thread.empresa with
      | none => exact closed
      | some empresa => exact (settled _).relata _ _

omit [JavaFloat R] [Gson R] in
theorem corre_state {x : EStateM.Result Excecao (Sistema R) Unit} {r : Resultado}
    (hx : corre x = (r, s')) : Java.state x = s' := by
  cases x <;> cases hx <;> rfl

variable {l : Passo R} {r : Resultado}

theorem passa_thread (h : s.Passa l r s') (hl : ∀ amb p, l ≠ .pedido amb p) :
    Toca l.empresa s s' := by
  cases l with
  | pedido amb p => exact absurd rfl (hl amb p)
  | terminaLeilao amb thread =>
      simp only [Passa, proximo, Option.ite_none_right_eq_some, Option.some.injEq] at h
      rw [← corre_state h.2]
      exact (toca_erase_terminaLeilao thread).trans (terminaLeilao_toca thread)
  | terminaEmissao amb thread =>
      simp only [Passa, proximo, Option.ite_none_right_eq_some, Option.some.injEq] at h
      rw [← corre_state h.2]
      exact (toca_erase_terminaEmissao thread).trans (terminaEmissao_toca thread)

theorem passa_pedido {p : Pedido R} (h : s.Passa (.pedido amb p) r s') :
    s.vivo = true ∧ ((∃ sucesso, r = .resposta sucesso ∧ s'.vivo = true) ∨
      (∃ e, r = .excecao e ∧ s'.vivo = false)) := by
  have touched := atende_toca s amb p
  simp only [Passa, proximo, Option.ite_none_right_eq_some] at h
  refine ⟨h.1, ?_⟩
  cases hx : (atende amb p).run s with
  | ok sucesso z =>
      rw [hx] at h touched
      cases h.2
      exact .inl ⟨sucesso, rfl, touched.vivo.trans h.1⟩
  | error e z =>
      rw [hx] at h
      cases h.2
      exact .inr ⟨e, rfl, rfl⟩

theorem passa_poupa (h : s.Passa l r s') (other : l.empresa ≠ some c) : Poupa c s s' := by
  cases l with
  | pedido amb p =>
      have spared := (atende_toca s amb p).poupa c other
      simp only [Passa, proximo, Option.ite_none_right_eq_some] at h
      cases hx : (atende amb p).run s <;> rw [hx] at h spared <;> cases h.2
      · exact spared
      · exact ⟨spared.novaRef, spared.empresa, spared.ficha⟩
  | terminaLeilao amb thread => exact (passa_thread h (by simp)).poupa c other
  | terminaEmissao amb thread => exact (passa_thread h (by simp)).poupa c other

/-- A step leaves what its program leaves, but for `vivo`. -/
theorem passa_programa (h : s.Passa l r s') :
    (∃ amb p vivo, l = .pedido amb p ∧ s' = { Java.state ((atende amb p).run s) with vivo }) ∨
    (∃ amb thread, l = .terminaLeilao amb thread ∧ s' = Java.state ((thread.run amb).run
      { s with terminaLeiloes := s.terminaLeiloes.erase thread })) ∨
    (∃ amb thread, l = .terminaEmissao amb thread ∧ s' = Java.state ((thread.run amb).run
      { s with terminaEmissoes := s.terminaEmissoes.erase thread })) := by
  cases l with
  | pedido amb p =>
      simp only [Passa, proximo, Option.ite_none_right_eq_some] at h
      refine .inl ⟨amb, p, s'.vivo, rfl, ?_⟩
      cases hx : (atende amb p).run s <;> rw [hx] at h <;> cases h.2 <;> rfl
  | terminaLeilao amb thread =>
      simp only [Passa, proximo, Option.ite_none_right_eq_some, Option.some.injEq] at h
      exact .inr (.inl ⟨amb, thread, rfl, (corre_state h.2).symm⟩)
  | terminaEmissao amb thread =>
      simp only [Passa, proximo, Option.ite_none_right_eq_some, Option.some.injEq] at h
      exact .inr (.inr ⟨amb, thread, rfl, (corre_state h.2).symm⟩)

/-- Every step keeps what its program keeps about `c` and what steps about others spare. -/
theorem passa_mantem {P : Sistema R → Prop}
    (poupa : ∀ s s', Poupa c s s' → P s → P s')
    (ends : ∀ s vivo, P s → P { s with vivo })
    (fires : ∀ s threads, P s → P { s with terminaLeiloes := threads })
    (fires' : ∀ s threads, P s → P { s with terminaEmissoes := threads })
    (atende : ∀ s amb p, (Passo.pedido amb p).empresa = some c → P s →
      P (Java.state ((Exchange.atende amb p).run s)))
    (terminaLeilao : ∀ s amb (thread : TerminaLeilao), thread.empresa = c → P s →
      P (Java.state ((thread.run amb).run s)))
    (terminaEmissao : ∀ s amb (thread : TerminaEmissao), thread.empresa = c → P s →
      P (Java.state ((thread.run amb).run s)))
    (h : P s) (step : s.Passa l r s') : P s' := by
  by_cases about : l.empresa = some c
  · rcases passa_programa step with
      ⟨amb, p, vivo, rfl, rfl⟩ | ⟨amb, thread, rfl, rfl⟩ | ⟨amb, thread, rfl, rfl⟩
    · exact ends _ vivo (atende s amb p about h)
    · exact terminaLeilao _ amb thread (Option.some.inj about) (fires s _ h)
    · exact terminaEmissao _ amb thread (Option.some.inj about) (fires' s _ h)
  · exact poupa _ _ (passa_poupa step about) h

theorem passa_hospeda (he : (s.empresas c).isSome) (h : s.Passa l r s') :
    (s'.empresas c).isSome := by
  cases l with
  | pedido amb p =>
      have hosted := (atende_toca s amb p).hospeda c he
      simp only [Passa, proximo, Option.ite_none_right_eq_some] at h
      cases hx : (atende amb p).run s <;> rw [hx] at h hosted <;> cases h.2 <;> exact hosted
  | terminaLeilao amb thread => exact (passa_thread h (by simp)).hospeda c he
  | terminaEmissao amb thread => exact (passa_thread h (by simp)).hospeda c he

theorem passa_vivo (h : s.Passa l r s') (vivo : s'.vivo = true) : s.vivo = true := by
  cases l with
  | pedido amb p => exact (passa_pedido h).1
  | terminaLeilao amb thread => exact (passa_thread h (by simp)).vivo.symm.trans vivo
  | terminaEmissao amb thread => exact (passa_thread h (by simp)).vivo.symm.trans vivo

end Sistema

end PeerLanding
