import Mathlib.Tactic.NormNum
import PeerLanding.Exchange.Allocation
import PeerLanding.Identity

/-! The rates of a company's emissions. `taxaEmissao` starts again from the last settled
auction when that auction was opened after the last settled emission, and otherwise
continues from that emission, a tenth higher if it failed. -/

namespace PeerLanding

open Exchange

variable {R : Type}

/-- The last settled auction was opened after the last settled emission, or no emission
has been settled. -/
def Exchange.Empresa.reinicia (empresa : Empresa R) : Bool :=
  match empresa.historicoLeiloes.getLast?, empresa.historicoEmissoes.getLast? with
  | some leilao, some emissao => leilao.data.isAfter emissao.data
  | some _, none => true
  | none, _ => false

section Precos

variable [JavaFloat R] {empresa : Empresa R} {leilao : Leilao R}

def Exchange.Emissao.proxima (emissao : Emissao R) : R :=
  if emissao.sucesso then emissao.taxa else JavaFloat.mul110 emissao.taxa

theorem Exchange.Empresa.taxaEmissao_reinicia
    (last : empresa.historicoLeiloes.getLast? = some leilao) (sucesso : leilao.sucesso = true)
    (again : empresa.reinicia = true) :
    empresa.taxaEmissao = .ok leilao.getTaxaLicitacaoMaxima := by
  unfold reinicia at again
  unfold taxaEmissao
  cases he : empresa.historicoEmissoes.getLast? <;> simp_all

theorem Exchange.Empresa.taxaEmissao_continua
    (last : empresa.historicoLeiloes.getLast? = some leilao)
    (goes_on : empresa.reinicia = false) :
    ∃ emissao, empresa.historicoEmissoes.getLast? = some emissao ∧
      empresa.taxaEmissao = .ok emissao.proxima := by
  unfold reinicia at goes_on
  unfold taxaEmissao
  cases he : empresa.historicoEmissoes.getLast? with
  | none => simp [last, he] at goes_on
  | some emissao =>
      refine ⟨emissao, rfl, ?_⟩
      rw [last, he] at goes_on
      cases hs : emissao.sucesso <;> simp [last, goes_on, hs, Emissao.proxima]

end Precos

namespace Momento

variable [JavaFloat R]

def emissaoTerminada (c : String) (e : Momento R) : Option (Emissao R) :=
  if e.label.empresa = some c then
    match e.label with
    | .terminaEmissao _ thread =>
        e.pre.emissao.map fun emissao => (emissao.termina c thread.idL).1
    | _ => none
  else none

def falhou (c : String) (e : Momento R) : Bool := (e.emissaoTerminada c).any (!·.sucesso)

omit [JavaFloat R] in
/-- The step is an accepted `emissao` whose rate comes from the last settled auction. -/
def reinicia (c : String) (e : Momento R) : Bool := e.abriuEmissao c && e.pre.empresa.reinicia

def criacao (c : String) (e : Momento R) : Option LocalDateTime :=
  match e.label with
  | .pedido amb _ => if e.abriuLeilao c || e.abriuEmissao c then some amb.agora else none
  | _ => none

end Momento

def falhas [JavaFloat R] (c : String) (t : List (Momento R)) : Nat :=
  t.countP (Momento.falhou c)

def criacoes (c : String) (t : List (Momento R)) : List LocalDateTime :=
  t.filterMap (Momento.criacao c)

section Concat

variable (c : String) (t : List (Momento R)) (e : Momento R)

@[simp] theorem falhas_concat [JavaFloat R] :
    falhas c (t ++ [e]) = falhas c t + (e.falhou c).toNat := by
  cases h : e.falhou c <;> simp [falhas, h]

@[simp] theorem criacoes_concat :
    criacoes c (t ++ [e]) = criacoes c t ++ (e.criacao c).toList := by
  cases h : e.criacao c <;> simp [criacoes, h]

end Concat

theorem Exchange.Leilao.termina_data [JavaFloat R] (leilao : Leilao R) (c : String) (idL : Int) :
    (leilao.termina c idL).1.data = leilao.data := by
  rcases leilao.termina_cases c idL with ⟨_, h⟩ | ⟨_, _, h⟩ | ⟨_, _, h⟩ <;> rw [h]

/-- An accepted emission is priced from a history whose last auction was a success. -/
theorem Ficha.Passa.emitida [JavaFloat R] {c : String} {f f' : Ficha R} {l : Passo R}
    {r : Resultado} (hs : f.Passa c l r f')
    (opens : Momento.abriuEmissao c ⟨f, l, r, f'⟩ = true) :
    ∃ leilao emissao, f.empresa.historicoLeiloes.getLast? = some leilao ∧
      leilao.sucesso = true ∧ f'.emissao = some emissao ∧
      f.empresa.taxaEmissao = .ok emissao.taxa := by
  cases hs with
  | emissao amb pode preco finito =>
      obtain ⟨leilao, last, sucesso⟩ := pode.1
      exact ⟨leilao, _, last, sucesso, Ficha.relata_emissao _ _ _, preco⟩
  | alheio outra _ => simp [Momento.abriuEmissao, outra] at opens
  | _ => simp [Momento.abriuEmissao] at opens

variable {ε : {q : ℚ // 0 < q}} {c : String} {registadas : List String}
  {t : List (Momento (Exact ε))} {f f' : Ficha (Exact ε)} {l : Passo (Exact ε)} {r : Resultado}

theorem Ficha.Passa.criacoes (hs : f.Passa c l r f')
    (h : (f.leiloes.map (·.data)).Sublist (criacoes c t)) :
    (f'.leiloes.map (·.data)).Sublist (PeerLanding.criacoes c (t ++ [⟨f, l, r, f'⟩])) := by
  rw [criacoes_concat]
  cases hs with
  | leilao amb livre multiplo finito =>
      have opened : f.leiloes = f.empresa.historicoLeiloes := by simp [leiloes, livre]
      rw [opened] at h
      simpa [leiloes, Momento.criacao, Momento.abriuLeilao] using h.append_right [amb.agora]
  | _ =>
      refine List.Sublist.trans ?_ (List.sublist_append_left _ _)
      simp_all [leiloes, Leilao.termina_data]

theorem Ficha.Run.criacoes (h : Ficha.Run c registadas t f) :
    (f.leiloes.map (·.data)).Sublist (criacoes c t) := by
  refine Runs.Run.invariant
    (fun t f => (f.leiloes.map (·.data)).Sublist (PeerLanding.criacoes c t)) h ?_ ?_
  · exact List.nil_sublist _
  · intro t f l r f' _ ih hs
    exact hs.criacoes ih

/-- `taxa` was taken from a successful auction at the latest restart, and raised by a tenth
for every emission that has failed since. -/
def ChainedRate (c : String) (t : List (Momento (Exact ε))) (taxa : Exact ε) : Prop :=
  ∃ e w leilao, Runs.Latest (fun e : Momento _ => e.reinicia c = true) t e w ∧
    e.pre.empresa.historicoLeiloes.getLast? = some leilao ∧ leilao.sucesso = true ∧
    taxa = leilao.getTaxaLicitacaoMaxima * Exact.aumento ^ falhas c w

section Step

variable {taxa : Exact ε} {m : Momento (Exact ε)}

theorem ChainedRate.concat (h : ChainedRate c t taxa) (same : m.reinicia c = false)
    (no_failure : m.falhou c = false) : ChainedRate c (t ++ [m]) taxa := by
  obtain ⟨e, w, leilao, latest, last, sucesso, rate⟩ := h
  refine ⟨e, w ++ [m], leilao, latest.concat (by simp [same]), last, sucesso, ?_⟩
  rw [falhas_concat, no_failure, rate]
  rfl

theorem ChainedRate.failure (h : ChainedRate c t taxa) (same : m.reinicia c = false)
    (failure : m.falhou c = true) : ChainedRate c (t ++ [m]) (taxa * Exact.aumento) := by
  obtain ⟨e, w, leilao, latest, last, sucesso, rate⟩ := h
  refine ⟨e, w ++ [m], leilao, latest.concat (by simp [same]), last, sucesso, ?_⟩
  rw [falhas_concat, failure, rate, Bool.toNat_true, pow_succ, mul_assoc]

theorem chainedRate_restart {leilao : Leilao (Exact ε)} (again : m.reinicia c = true)
    (last : m.pre.empresa.historicoLeiloes.getLast? = some leilao)
    (sucesso : leilao.sucesso = true) :
    ChainedRate c (t ++ [m]) leilao.getTaxaLicitacaoMaxima :=
  ⟨m, [], leilao, Runs.latest_concat_self again, last, sucesso, by simp [falhas]⟩

end Step

/-- The rate of the open emission, and the rate that the last settled one leaves behind. -/
structure RateInvariant (c : String) (t : List (Momento (Exact ε))) (f : Ficha (Exact ε)) :
    Prop where
  active : ∀ emissao ∈ f.emissao, ChainedRate c t emissao.taxa
  next : ∀ emissao, f.empresa.historicoEmissoes.getLast? = some emissao →
    f.empresa.reinicia = false → ChainedRate c t emissao.proxima

theorem RateInvariant.concat {m : Momento (Exact ε)} (h : RateInvariant c t f)
    (same : m.reinicia c = false) (no_failure : m.falhou c = false)
    (open_one : ∀ emissao ∈ f'.emissao, ∃ antes ∈ f.emissao, antes.taxa = emissao.taxa)
    (settled : f'.empresa.historicoEmissoes = f.empresa.historicoEmissoes)
    (restart : f'.empresa.reinicia = false → f.empresa.reinicia = false) :
    RateInvariant c (t ++ [m]) f' := by
  refine ⟨?_, ?_⟩
  · intro emissao aberta
    obtain ⟨antes, antes_aberta, taxa⟩ := open_one emissao aberta
    rw [← taxa]
    exact (h.active antes antes_aberta).concat same no_failure
  · intro emissao last goes_on
    rw [settled] at last
    exact (h.next emissao last (restart goes_on)).concat same no_failure

/-- With creation times that never decrease, settling an auction can only make the next
emission start again. -/
theorem reinicia_comLeilao {empresa : Empresa R} {leilao : Leilao R}
    (ordered : ∀ antes, empresa.historicoLeiloes.getLast? = some antes →
      antes.data ≤ leilao.data)
    (goes_on : (empresa.comLeilao leilao).reinicia = false) : empresa.reinicia = false := by
  unfold Empresa.reinicia at *
  cases hl : empresa.historicoLeiloes.getLast? with
  | none => rfl
  | some antes =>
      have before := ordered antes hl
      cases he : empresa.historicoEmissoes.getLast? with
      | none => simp [he] at goes_on
      | some emissao =>
          simp only [Empresa.comLeilao_historicoLeiloes, List.getLast?_concat,
            Empresa.comLeilao_historicoEmissoes, he, LocalDateTime.isAfter,
            decide_eq_false_iff_not, not_lt] at goes_on ⊢
          exact before.trans goes_on

theorem ChainedRate.settled {m : Momento (Exact ε)} {emissao terminada : Emissao (Exact ε)}
    (h : ChainedRate c t emissao.taxa) (same : m.reinicia c = false)
    (here : m.emissaoTerminada c = some terminada) (taxa : terminada.taxa = emissao.taxa) :
    ChainedRate c (t ++ [m]) terminada.proxima := by
  have failed : m.falhou c = !terminada.sucesso := by rw [Momento.falhou, here]; rfl
  unfold Emissao.proxima
  cases hs : terminada.sucesso with
  | true =>
      rw [if_pos rfl, taxa]
      exact h.concat same (by rw [failed, hs]; rfl)
  | false =>
      rw [if_neg Bool.false_ne_true, taxa, Exact.mul110_eq]
      exact h.failure same (by rw [failed, hs]; rfl)

theorem RateInvariant.price {m : Momento (Exact ε)} {taxa : Exact ε} {quantia : Int32}
    (h : RateInvariant c t f) (pode : f.empresa.PodeEmitir quantia)
    (preco : f.empresa.taxaEmissao = .ok taxa) (pre : m.pre = f)
    (opens : m.abriuEmissao c = true) (no_failure : m.falhou c = false) :
    ChainedRate c (t ++ [m]) taxa := by
  obtain ⟨leilao, last, sucesso⟩ := pode.1
  subst pre
  cases again : m.pre.empresa.reinicia with
  | true =>
      rw [Empresa.taxaEmissao_reinicia last sucesso again, Except.ok.injEq] at preco
      have restart : m.reinicia c = true := by simp [Momento.reinicia, opens, again]
      exact preco ▸ chainedRate_restart restart last sucesso
  | false =>
      obtain ⟨anterior, settled, price⟩ := Empresa.taxaEmissao_continua last again
      rw [price, Except.ok.injEq] at preco
      have continues : m.reinicia c = false := by simp [Momento.reinicia, again]
      exact preco ▸ (h.next anterior settled again).concat continues no_failure

theorem Ficha.Passa.rateInvariant (hs : f.Passa c l r f') (h : RateInvariant c t f)
    (ordered : ∀ leilao, f.leilao = some leilao →
      ∀ antes, f.empresa.historicoLeiloes.getLast? = some antes → antes.data ≤ leilao.data) :
    RateInvariant c (t ++ [⟨f, l, r, f'⟩]) f' := by
  cases hs with
  | emissao amb pode preco finito =>
      refine ⟨?_, ?_⟩
      · intro emissao aberta
        rw [Ficha.relata_emissao, Option.mem_some_iff] at aberta
        rw [← aberta, Emissao.novo_taxa]
        exact h.price pode preco rfl (by simp [Momento.abriuEmissao])
          (by simp [Momento.falhou, Momento.emissaoTerminada])
      · intro emissao last goes_on
        rw [Ficha.relata_empresa] at last goes_on
        exact (h.next emissao last goes_on).concat (by simp [Momento.reinicia, goes_on])
          (by simp [Momento.falhou, Momento.emissaoTerminada])
  | @terminaEmissao amb thread emissao por dela aberta =>
      obtain ⟨sucesso, outcome⟩ := emissao.termina_eq c thread.idL
      refine ⟨?_, ?_⟩
      · intro emissao still_open
        rw [Ficha.relata_emissao] at still_open
        cases still_open
      · intro terminada last _
        rw [Ficha.relata_empresa, Empresa.comEmissao_historicoEmissoes, List.getLast?_concat,
          Option.some.injEq] at last
        refine ChainedRate.settled (h.active _ aberta) (?_ : _ = false) ?_ ?_
        · simp [Momento.reinicia, Momento.abriuEmissao]
        · simp [Momento.emissaoTerminada, dela, aberta, last]
        · rw [← last, outcome]
  | @terminaLeilao amb thread leilao por dela aberto finito =>
      have later := ordered leilao aberto
      rw [← leilao.termina_data c thread.idL] at later
      refine h.concat ?_ ?_ ?_ ?_ fun goes_on => ?_
      · simp [Momento.reinicia, Momento.abriuEmissao]
      · simp [Momento.falhou, Momento.emissaoTerminada]
      · intro emissao aberta
        rw [Ficha.relata_emissao] at aberta
        exact ⟨emissao, aberta, rfl⟩
      · rw [Ficha.relata_empresa, Empresa.comLeilao_historicoEmissoes]
      · rw [Ficha.relata_empresa] at goes_on
        exact reinicia_comLeilao later goes_on
  | @terminaLeilaoEspecial amb thread leilao por dela aberto especial =>
      have finito := leilao.termina_finito c thread.idL fun l _ => Exact.isFinite_eq l.taxa
      rw [finito] at especial
      cases especial
  | alheio outra _ =>
      refine h.concat ?_ ?_ ?_ rfl id <;> simp_all [Momento.reinicia, Momento.falhou,
        Momento.abriuEmissao, Momento.emissaoTerminada]
  | _ =>
      refine h.concat ?_ ?_ ?_ ?_ ?_ <;>
        simp_all [Momento.reinicia, Momento.falhou, Momento.abriuEmissao,
          Momento.emissaoTerminada]

theorem Ficha.Run.leilao_posterior (h : Ficha.Run c registadas t f)
    (ordered : (PeerLanding.criacoes c t).Pairwise (· ≤ ·)) :
    ∀ leilao, f.leilao = some leilao →
      ∀ antes, f.empresa.historicoLeiloes.getLast? = some antes → antes.data ≤ leilao.data := by
  intro leilao aberto antes last
  have times := ordered.sublist h.criacoes
  rw [Ficha.leiloes, aberto, List.map_append, List.pairwise_append] at times
  exact times.2.2 _ (List.mem_map_of_mem (List.mem_of_getLast? last)) _ (by simp)

theorem Ficha.Run.rateInvariant (h : Ficha.Run c registadas t f) :
    (PeerLanding.criacoes c t).Pairwise (· ≤ ·) → RateInvariant c t f := by
  refine Runs.Run.invariant
    (fun t f => (PeerLanding.criacoes c t).Pairwise (· ≤ ·) → RateInvariant c t f) h ?_ ?_
  · intro _
    refine ⟨?_, ?_⟩
    · intro emissao aberta
      cases aberta
    · intro emissao last
      cases last
  · intro t f l r f' run ih hs ordered
    rw [criacoes_concat] at ordered
    have before := (List.pairwise_append.1 ordered).1
    exact hs.rateInvariant (ih before) (Ficha.Run.leilao_posterior run before)

/-- Every accepted emission has the rate of the auction at the latest restart, raised by a
tenth for every failed emission since; it is a restart itself when the last settled
auction was opened after the last settled emission. -/
theorem emissionRate [Gson (Exact ε)] {nomes : List String} {t : List (Transicao (Exact ε))}
    {s : Sistema (Exact ε)} (hc : c ∈ nomes) (h : Sistema.Run nomes registadas t s)
    (ordered : (PeerLanding.criacoes c (percurso c t)).Pairwise (· ≤ ·))
    {u : List (Momento (Exact ε))} {e : Momento (Exact ε)} (he : u ++ [e] <+: percurso c t)
    (accepted : e.abriuEmissao c = true) :
    ∃ leilao emissao, e.pre.empresa.historicoLeiloes.getLast? = some leilao ∧
      leilao.sucesso = true ∧ e.post.emissao = some emissao ∧
      ChainedRate c (u ++ [e]) emissao.taxa ∧
      (e.pre.empresa.reinicia = true → emissao.taxa = leilao.getTaxaLicitacaoMaxima) := by
  obtain ⟨before, step⟩ := (h.percurso hc).of_concat he
  obtain ⟨leilao, emissao, last, sucesso, aberta, preco⟩ := step.emitida accepted
  have times : (PeerLanding.criacoes c (u ++ [e])).Pairwise (· ≤ ·) :=
    ordered.sublist (he.sublist.filterMap _)
  have after := Ficha.Run.rateInvariant (.snoc before step) times
  refine ⟨leilao, emissao, last, sucesso, aberta, after.active emissao aberta, ?_⟩
  intro again
  rw [Empresa.taxaEmissao_reinicia last sucesso again, Except.ok.injEq] at preco
  exact preco.symm

/-- The rate of the last settled auction, raised for every failed emission since it was
settled. -/
def RateSinceAuction (c : String) (t : List (Momento (Exact ε))) (leilao : Leilao (Exact ε))
    (taxa : Exact ε) : Prop :=
  taxa = leilao.getTaxaLicitacaoMaxima *
    Exact.aumento ^ falhas c (t.reverse.takeWhile fun e => (e.leilaoTerminado c).isNone)

/-- A thousandth for `Float.MIN_VALUE`. -/
abbrev milesimo : {q : ℚ // 0 < q} := ⟨1 / 1000, by norm_num⟩

/-- An emission is opened while the second auction is, and settled after it. -/
def crossingSteps : List (Passo (Exact milesimo)) :=
  [.pedido (.em 1) (.leilao "CanecaLda" 1000 (.ofRat 1)),
    .pedido (.em 2) (.licitar "CanecaLda" "ana" 1000 (.ofRat (1 / 2))),
    .terminaLeilao (.em 3) ⟨"CanecaLda", 0, 0⟩,
    .pedido (.em 4) (.leilao "CanecaLda" 1000 (.ofRat 1)),
    .pedido (.em 5) (.licitar "CanecaLda" "ana" 1000 (.ofRat (1 / 10))),
    .pedido (.em 6) (.emissao "CanecaLda" 1000),
    .terminaLeilao (.em 7) ⟨"CanecaLda", 1, 1⟩,
    .pedido (.em 8) (.emprestimo "CanecaLda" "rui" 1000),
    .terminaEmissao (.em 9) ⟨"CanecaLda", 0, 2⟩,
    .pedido (.em 10) (.emissao "CanecaLda" 1000)]

theorem crossingSteps_taken :
    (Sistema.corrida ["CanecaLda", "SapatoLda"] Directory.nomes crossingSteps).isSome := by
  decide +kernel

abbrev crossingTrace : List (Momento (Exact milesimo)) :=
  percurso "CanecaLda" ((Sistema.corrida ["CanecaLda", "SapatoLda"] Directory.nomes
    crossingSteps).get crossingSteps_taken).1

abbrev crossingLast : Momento (Exact milesimo) := crossingTrace.get ⟨9, by decide +kernel⟩

theorem crossingLast_last : crossingTrace.take 9 ++ [crossingLast] <+: crossingTrace := by
  rw [crossingLast, List.get_eq_getElem, List.take_append_getElem]
  exact List.take_prefix _ _

theorem crossingLast_leilao :
    crossingLast.pre.empresa.historicoLeiloes.getLast?.isSome := by decide +kernel

theorem crossingLast_emissao : crossingLast.post.emissao.isSome := by decide +kernel

theorem crossingLast_rate : ¬RateSinceAuction "CanecaLda" (crossingTrace.take 9)
    (crossingLast.pre.empresa.historicoLeiloes.getLast?.get crossingLast_leilao)
    (crossingLast.post.emissao.get crossingLast_emissao).taxa := by
  unfold RateSinceAuction
  decide +kernel

/-- The second auction was settled at `1/10`, and the emission after it pays `1/2`. -/
theorem emissionRate_crossing :
    ∃ (t : List (Transicao (Exact milesimo))) (s : Sistema (Exact milesimo))
      (u : List (Momento (Exact milesimo))) (e : Momento (Exact milesimo))
      (leilao : Leilao (Exact milesimo)) (emissao : Emissao (Exact milesimo)),
      Sistema.Run ["CanecaLda", "SapatoLda"] Directory.nomes t s ∧
        (criacoes "CanecaLda" (percurso "CanecaLda" t)).Pairwise (· < ·) ∧
        u ++ [e] <+: percurso "CanecaLda" t ∧ e.abriuEmissao "CanecaLda" = true ∧
        e.pre.empresa.historicoLeiloes.getLast? = some leilao ∧ leilao.sucesso = true ∧
        e.post.emissao = some emissao ∧
        ¬RateSinceAuction "CanecaLda" u leilao emissao.taxa :=
  ⟨_, _, _, crossingLast, _, _, Sistema.run_corrida crossingSteps_taken, by decide +kernel,
    crossingLast_last, by decide +kernel, (Option.some_get crossingLast_leilao).symm,
    by decide +kernel, (Option.some_get crossingLast_emissao).symm, crossingLast_rate⟩

theorem emissionRate_half :
    ∃ (leilao : Leilao (Exact milesimo)) (emissao : Emissao (Exact milesimo)),
      leilao.sucesso = true ∧ crossingLast.post.emissao = some emissao ∧
        ChainedRate "CanecaLda" (crossingTrace.take 9 ++ [crossingLast]) emissao.taxa := by
  obtain ⟨leilao, emissao, _, sucesso, aberta, chained, _⟩ :=
    emissionRate (c := "CanecaLda") (by decide) (Sistema.run_corrida crossingSteps_taken)
      (by decide +kernel) crossingLast_last (by decide +kernel)
  exact ⟨leilao, emissao, sucesso, aberta, chained⟩

end PeerLanding
