import PeerLanding.AuctionLifecycle
import PeerLanding.Exchange.Allocation
import PeerLanding.Views

/-! The Directory's records of a company's auctions. With every call delivered they
mirror the exchange, position by position. With calls lost they fall behind for ever,
and then an update reaches the record of its own auction or none. -/

namespace PeerLanding

open Exchange

variable {R : Type} [JavaFloat R] {c : String} {registadas : List String}
  {t : List (Momento R)} {f f' : Ficha R} {l : Passo R} {r : Resultado}

/-- The company's auctions at the exchange, the open one last. -/
def Ficha.vistaLeiloes (f : Ficha R) : List (Vista R) :=
  f.empresa.historicoLeiloes.mapIdx (fun i leilao => leilao.vista i false) ++
    f.leilao.toList.map fun leilao => leilao.vista f.empresa.historicoLeiloes.length true

def Ficha.LicitacoesFinitas (f : Ficha R) : Prop :=
  ∀ leilao ∈ f.leilao, ∀ l ∈ leilao.licitacoes, JavaFloat.isFinite l.taxa = true

theorem Ficha.Passa.licitacoesFinitas (hs : f.Passa c l r f') (finito : l.finito = true)
    (h : f.LicitacoesFinitas) : f'.LicitacoesFinitas := by
  unfold Ficha.LicitacoesFinitas at *
  cases hs with
  | licitar amb investidor aberto aceita finito =>
      intro leilao hl l hl'
      simp only [Ficha.relata_leilao, Option.mem_def, Option.some.injEq] at hl
      rw [← hl, Leilao.comLicitacao_licitacoes, List.mem_append, List.mem_singleton] at hl'
      cases hl' with
      | inl old => exact h _ aberto l old
      | inr new => exact new ▸ finito
  | _ => simp_all

/-- The Directory's view of the auctions is the exchange's. -/
def AuctionMirror (f : Ficha R) : Prop :=
  ∃ registo, f.registo = some registo ∧
    registo.historicoLeiloes.map Directory.Leilao.vista = f.vistaLeiloes

theorem Ficha.Passa.mirrored (hs : f.Passa c l r f') (finito : l.finito = true)
    (entregue : l.empresa = some c → l.entregue = true)
    (waiting : f.terminaLeiloes = f.porTerminar c)
    (semDesfecho : ∀ leilao ∈ f.leilao, leilao.sucesso = false)
    (finitas : f.LicitacoesFinitas) (h : AuctionMirror f) : AuctionMirror f' := by
  obtain ⟨registo, hr, hv⟩ := h
  unfold Ficha.vistaLeiloes at hv
  cases hs with
  | alheio _ _ => exact ⟨registo, hr, hv⟩
  | recusa _ _ => exact ⟨registo, hr, hv⟩
  | leilao amb livre _ _ =>
      have sent : amb.entregue = true := entregue rfl
      refine Ficha.exists_relata_registo sent hr ?_
      simp only [livre, Option.toList_none, List.map_nil, List.append_nil] at hv
      simp [Ficha.vistaLeiloes, hv, Directory.Leilao.vista, Leilao.vista]
  | @licitar amb investidor quantia juro leilao aberto _ _ =>
      have sent : amb.entregue = true := entregue rfl
      refine Ficha.exists_relata_registo sent hr ?_
      simp only [aberto, Option.toList_some, List.map_singleton] at hv
      have last := map_modify_last hv fun registado hl =>
        Leilao.recebe_vista hl leilao.licitacoes.length ⟨investidor, juro, quantia⟩
      simpa [Ficha.vistaLeiloes] using last
  | @terminaLeilao amb thread leilao por _ aberto _ =>
      have sent : amb.entregue = true := entregue (by simp [*])
      obtain ⟨_, _, hthread⟩ := Ficha.thread_eq waiting por
      have position : thread.idL = f.empresa.historicoLeiloes.length := by rw [hthread]
      refine Ficha.exists_relata_registo sent hr ?_
      simp only [aberto, Option.toList_some, List.map_singleton] at hv
      have last := map_modify_last hv fun registado hl =>
        Leilao.termina_vista hl (semDesfecho _ aberto) c thread.idL
      simpa [Ficha.vistaLeiloes, position] using last
  | leilaoEspecial _ _ _ especial => simp_all
  | licitarEspecial _ _ _ _ especial => simp_all
  | @terminaLeilaoEspecial _ thread leilao _ _ aberto especial =>
      have finite := Leilao.termina_finito c thread.idL (finitas _ aberto)
      simp_all
  | terminaLeilaoNulo _ por _ fechado =>
      obtain ⟨leilao, aberto, _⟩ := Ficha.thread_eq waiting por
      cases fechado.symm.trans aberto
  | emissao amb _ _ _ =>
      have sent : amb.entregue = true := entregue rfl
      exact Ficha.exists_relata_registo sent hr (by simpa [Ficha.vistaLeiloes] using hv)
  | emissaoEspecial _ _ _ _ => exact ⟨registo, hr, hv⟩
  | emprestimo amb _ _ _ =>
      have sent : amb.entregue = true := entregue rfl
      exact Ficha.exists_relata_registo sent hr (by simpa [Ficha.vistaLeiloes] using hv)
  | terminaEmissao amb _ dela _ =>
      have sent : amb.entregue = true := entregue (by simp [dela])
      exact Ficha.exists_relata_registo sent hr (by simpa [Ficha.vistaLeiloes] using hv)
  | terminaEmissaoNula _ _ _ _ => exact ⟨registo, hr, hv⟩

theorem Ficha.Run.mirrored (h : Ficha.Run c registadas t f) (hd : c ∈ registadas)
    (normais : ∀ e ∈ t, e.label.finito = true ∧
      (e.label.empresa = some c → e.label.entregue = true)) : AuctionMirror f := by
  have both : f.LicitacoesFinitas ∧ AuctionMirror f := by
    refine Runs.Run.invariant_of_guard (fun _ f => f.LicitacoesFinitas ∧ AuctionMirror f)
      _ h normais ⟨?_, ?_⟩ ?_
    · intro leilao hl
      cases hl
    · exact ⟨Directory.Empresa.novo c, by simp [Ficha.inicial, Directory.vazio, hd], rfl⟩
    · intro t f l r f' run ih hs normal
      exact ⟨hs.licitacoesFinitas normal.1 ih.1,
        hs.mirrored normal.1 normal.2 (Ficha.Run.terminaLeiloes run)
          (Ficha.Run.semDesfecho run) ih.1 ih.2⟩
  exact both.2

/-- With finite rates and every call delivered, the Directory mirrors the auctions of
every company that both know. -/
theorem auctionMirror [Gson R] {nomes : List String} {t : List (Transicao R)}
    {s : Sistema R} (hc : c ∈ nomes) (hd : c ∈ registadas)
    (h : Sistema.Run nomes registadas t s) (finitas : ∀ e ∈ t, e.label.finito = true)
    (entregues : ∀ e ∈ t, e.label.empresa = some c → e.label.entregue = true) :
    AuctionMirror (s.ficha c) := by
  refine (h.percurso hc).mirrored hd fun e he => ?_
  obtain ⟨e', he', rfl⟩ := List.mem_map.1 he
  exact ⟨finitas e' he', entregues e' he'⟩

theorem auctionMirror_caneca : ∃ (t : List (Transicao Binary32)) (s : Sistema Binary32),
    Sistema.Run ["CanecaLda", "SapatoLda"] Directory.nomes t s ∧ t.length = 4 ∧
      AuctionMirror (s.ficha "CanecaLda") := by
  have run := Sistema.run_corrida auctionSteps_taken
  have finitas := Sistema.labels_corrida auctionSteps_taken
    (show ∀ l ∈ auctionSteps, l.finito = true by decide)
  have entregues := Sistema.labels_corrida auctionSteps_taken
    (show ∀ l ∈ auctionSteps, l.empresa = some "CanecaLda" → l.entregue = true by decide)
  exact ⟨_, _, run, by decide, auctionMirror (by decide) (by decide) run finitas entregues⟩

/-! ### Lost calls -/

/-- The update `g` of record `n`, made for the auction `ref`, reaches the record that was
appended for `ref`, or is an index error and changes nothing. -/
def ReachesOwn (publicados : List Nat) (ref n : Nat)
    (g : Directory.Leilao R → Directory.Leilao R) (registo : Directory.Empresa R)
    (depois : Option (Directory.Empresa R)) : Prop :=
  match Java.update registo.historicoLeiloes n g with
  | .ok historicoLeiloes =>
      publicados[n]? = some ref ∧ depois = some { registo with historicoLeiloes }
  | .error e => e = .indexOutOfBounds ∧ depois = some registo

/-- Where the calls of a step of `c` about an auction go, after the steps `u`. -/
structure OwnRecord (c : String) (u : List (Momento R)) (e : Momento R) : Prop where
  distinct : (e.pre.leiloes.map (·.ref)).Nodup
  published : (leiloesPublicados c u).Sublist (e.pre.leiloes.map (·.ref))
  records : ∀ registo ∈ e.pre.registo,
    registo.historicoLeiloes.length = (leiloesPublicados c u).length
  licitacao : ∀ amb investidor quantia juro registo,
    e.label = .pedido amb (.licitar c investidor quantia juro) →
    e.result = .resposta true → amb.entregue = true → e.pre.registo = some registo →
    ∃ leilao, e.pre.leilao = some leilao ∧
      ReachesOwn (leiloesPublicados c u) leilao.ref e.pre.empresa.historicoLeiloes.length
        (Directory.Leilao.recebe ⟨leilao.licitacoes.length, investidor, juro, quantia⟩)
        registo e.post.registo
  desfecho : ∀ amb thread registo, e.label = .terminaLeilao amb thread → thread.empresa = c →
    e.result = .fim → amb.entregue = true → e.pre.registo = some registo →
    ∃ leilao, e.pre.leilao = some leilao ∧
      ReachesOwn (leiloesPublicados c u) leilao.ref thread.idL
        (Directory.Leilao.encerra (leilao.termina c thread.idL).2.recebido)
        registo e.post.registo

/-- The Directory has a record for each POST that reached it, in the order of the auctions,
and the open auction's record, if it is there, is at its own place. -/
structure Behind (c : String) (t : List (Momento R)) (f : Ficha R) : Prop where
  records : ∀ registo ∈ f.registo,
    registo.historicoLeiloes.length = (leiloesPublicados c t).length
  published : (leiloesPublicados c t).Sublist (f.leiloes.map (·.ref))
  open_last : ∀ ref ∈ (leiloesPublicados c t)[f.empresa.historicoLeiloes.length]?,
    f.leilao.map (·.ref) = some ref

omit [JavaFloat R] in
theorem Ficha.mem_relata_registo {amb : Ambiente}
    {g : Directory.Empresa R → Directory.Empresa R} {P : Directory.Empresa R → Prop}
    (kept : amb.entregue = false → ∀ registo ∈ f.registo, P registo)
    (updated : amb.entregue = true → ∀ registo ∈ f.registo, P (g registo)) :
    ∀ registo ∈ (f.relata amb g).registo, P registo := by
  intro registo hr
  rw [Ficha.relata_registo] at hr
  split_ifs at hr with sent
  · obtain ⟨antes, ha, rfl⟩ := Option.mem_map.1 hr
    exact updated sent antes ha
  · exact kept (by simpa using sent) registo hr

theorem Ficha.Passa.behind (hs : f.Passa c l r f') (h : Behind c t f) :
    Behind c (t ++ [⟨f, l, r, f'⟩]) f' := by
  obtain ⟨records, published, open_last⟩ := h
  unfold Ficha.leiloes at published
  have bounded : (leiloesPublicados c t).length ≤
      f.empresa.historicoLeiloes.length + f.leilao.toList.length := by
    simpa using published.length_le
  cases hs with
  | leilao amb livre _ _ =>
      have short : (leiloesPublicados c t).length ≤ f.empresa.historicoLeiloes.length := by
        simpa [livre] using bounded
      refine ⟨Ficha.mem_relata_registo ?_ ?_, ?_, ?_⟩
      · intro lost
        simpa [Momento.leilaoPublicado, lost] using records
      · intro sent
        simpa [Momento.leilaoPublicado, sent] using records
      · simp only [livre, Option.toList_none, List.append_nil] at published
        cases sent : amb.entregue with
        | true =>
            have both := published.append_right [f.novaRef]
            simpa [Momento.leilaoPublicado, sent, Ficha.leiloes] using both
        | false =>
            have longer := published.trans (List.sublist_append_left _ [f.novaRef])
            simpa [Momento.leilaoPublicado, sent, Ficha.leiloes] using longer
      · intro publicado hp
        cases sent : amb.entregue with
        | true =>
            have last := List.mem_of_getElem? (by
              simpa [Momento.leilaoPublicado, sent, List.getElem?_append_right short] using hp)
            simpa [eq_comm] using last
        | false =>
            have inside := (List.getElem?_eq_some_iff.1
              (by simpa [Momento.leilaoPublicado, sent] using hp)).1
            exact absurd inside (not_lt.2 short)
  | leilaoEspecial amb livre _ _ =>
      have short : (leiloesPublicados c t).length ≤ f.empresa.historicoLeiloes.length := by
        simpa [livre] using bounded
      refine ⟨by simpa [Momento.leilaoPublicado] using records, ?_, ?_⟩
      · simp only [livre, Option.toList_none, List.append_nil] at published
        have longer := published.trans (List.sublist_append_left _ [f.novaRef])
        simpa [Momento.leilaoPublicado, Ficha.leiloes] using longer
      · intro publicado hp
        have inside := (List.getElem?_eq_some_iff.1
          (by simpa [Momento.leilaoPublicado] using hp)).1
        exact absurd inside (not_lt.2 short)
  | licitar amb investidor aberto _ _ =>
      refine ⟨Ficha.mem_relata_registo ?_ ?_, ?_, ?_⟩ <;>
        simp_all [Momento.leilaoPublicado, Ficha.leiloes]
  | terminaLeilao amb por _ aberto _ =>
      refine ⟨Ficha.mem_relata_registo ?_ ?_, ?_, ?_⟩ <;>
        simp_all [Momento.leilaoPublicado, Ficha.leiloes]
  | emissao amb _ _ _ =>
      refine ⟨Ficha.mem_relata_registo ?_ ?_, ?_, ?_⟩ <;>
        simp_all [Momento.leilaoPublicado, Ficha.leiloes]
  | emprestimo amb _ _ _ =>
      refine ⟨Ficha.mem_relata_registo ?_ ?_, ?_, ?_⟩ <;>
        simp_all [Momento.leilaoPublicado, Ficha.leiloes]
  | terminaEmissao amb _ dela _ =>
      refine ⟨Ficha.mem_relata_registo ?_ ?_, ?_, ?_⟩ <;>
        simp_all [Momento.leilaoPublicado, Ficha.leiloes]
  | _ => refine ⟨?_, ?_, ?_⟩ <;> simp_all [Momento.leilaoPublicado, Ficha.leiloes]

omit [JavaFloat R] in
theorem Behind.reachesOwn (h : Behind c t f) {leilao : Leilao R}
    (aberto : f.leilao = some leilao) {registo : Directory.Empresa R}
    (hr : f.registo = some registo) (g : Directory.Leilao R → Directory.Leilao R) :
    ReachesOwn (leiloesPublicados c t) leilao.ref f.empresa.historicoLeiloes.length g registo
      (some (registo.noLeilao f.empresa.historicoLeiloes.length g)) := by
  unfold ReachesOwn
  rw [Java.update_natCast]
  by_cases inside : f.empresa.historicoLeiloes.length < registo.historicoLeiloes.length
  · rw [if_pos inside]
    rw [h.records registo hr] at inside
    have owner := h.open_last _ (List.getElem?_eq_getElem inside)
    rw [aberto, Option.map_some] at owner
    exact ⟨by rw [List.getElem?_eq_getElem inside, ← owner], rfl⟩
  · rw [if_neg inside]
    refine ⟨rfl, ?_⟩
    rw [Directory.Empresa.noLeilao, List.modify_eq_self (not_lt.1 inside)]

theorem Ficha.Passa.ownRecord (hs : f.Passa c l r f') (h : Behind c t f)
    (identified : f.Identificada) (waiting : f.terminaLeiloes = f.porTerminar c) :
    OwnRecord c t ⟨f, l, r, f'⟩ := by
  refine ⟨identified.leiloes.nodup, h.published, h.records, ?_, ?_⟩
  · intro amb investidor quantia juro registo label result sent hr
    cases hs with
    | licitar _ _ aberto _ _ =>
        cases label
        refine ⟨_, aberto, ?_⟩
        simp only [Ficha.relata_registo, if_pos sent]
        have own := h.reachesOwn aberto hr
        rw [hr]
        exact own _
    | alheio outra _ =>
        cases label
        exact absurd rfl outra
    | _ => cases label <;> cases result
  · intro amb thread registo label dela result sent hr
    cases hs with
    | terminaLeilao _ por _ aberto _ =>
        cases label
        refine ⟨_, aberto, ?_⟩
        obtain ⟨_, _, hthread⟩ := Ficha.thread_eq waiting por
        have position : thread.idL = f.empresa.historicoLeiloes.length := by rw [hthread]
        have own := h.reachesOwn aberto hr
        simp only [Ficha.relata_registo, if_pos sent, position]
        rw [hr]
        exact own _
    | alheio outra _ =>
        cases label
        exact absurd (congrArg some dela) outra
    | _ => cases label <;> cases result

theorem Ficha.Run.behind (h : Ficha.Run c registadas t f) : Behind c t f := by
  refine Runs.Run.invariant (Behind c) h ?_ ?_
  · refine ⟨?_, List.nil_sublist _, by simp [leiloesPublicados]⟩
    intro registo hr
    rw [Directory.eq_novo_of_vazio hr]
    rfl
  · intro t f l r f' _ ih hs
    exact hs.behind ih

/-- Whatever calls are lost, a bid or an outcome that reaches the Directory changes the
record appended for its own auction, or raises an index error and changes nothing. -/
theorem lostCalls_ownRecord [Gson R] {nomes : List String} {t u : List (Transicao R)}
    {s : Sistema R} {e : Transicao R} (hc : c ∈ nomes)
    (h : Sistema.Run nomes registadas t s) (he : u ++ [e] <+: t) :
    OwnRecord c (percurso c u) (e.map (·.ficha c)) := by
  have before : percurso c u ++ [e.map (·.ficha c)] <+: percurso c t := by
    simpa [percurso] using he.map (Runs.Transition.map (·.ficha c))
  have taken := (h.percurso hc).of_concat before
  exact taken.2.ownRecord (Ficha.Run.behind taken.1) (Ficha.Run.identificada taken.1)
    (Ficha.Run.terminaLeiloes taken.1)

/-- The POST of the first auction is lost, the calls about the second one get through. -/
def lostSteps : List (Passo Binary32) :=
  [.pedido ⟨.atNano 1, .atNano 1, false⟩ (.leilao "CanecaLda" 1000 (.intBitsToFloat 0x3DCCCCCD)),
    .terminaLeilao (.em 2) ⟨"CanecaLda", 0, 0⟩,
    .pedido (.em 3) (.leilao "CanecaLda" 2000 (.intBitsToFloat 0x3DCCCCCD)),
    .pedido (.em 4) (.licitar "CanecaLda" "ana" 600 (.intBitsToFloat 0x3D4CCCCD))]

theorem lostSteps_taken :
    (Sistema.corrida ["CanecaLda", "SapatoLda"] Directory.nomes lostSteps).isSome := by
  decide

theorem lostCalls_ownRecord_caneca :
    ∃ (t u : List (Transicao Binary32)) (s : Sistema Binary32) (e : Transicao Binary32),
      Sistema.Run ["CanecaLda", "SapatoLda"] Directory.nomes t s ∧ u ++ [e] <+: t ∧
        u.length = 3 ∧ OwnRecord "CanecaLda" (percurso "CanecaLda" u)
          (e.map (·.ficha "CanecaLda")) := by
  have run := Sistema.run_corrida lostSteps_taken
  have last : ((Sistema.corrida _ _ lostSteps).get lostSteps_taken).1.take 3 ++
      [((Sistema.corrida _ _ lostSteps).get lostSteps_taken).1.get ⟨3, by decide⟩] <+:
        ((Sistema.corrida _ _ lostSteps).get lostSteps_taken).1 := by
    rw [List.get_eq_getElem, List.take_append_getElem]
    exact List.take_prefix _ _
  exact ⟨_, _, _, _, run, last, by decide, lostCalls_ownRecord (by decide) run last⟩

end PeerLanding
