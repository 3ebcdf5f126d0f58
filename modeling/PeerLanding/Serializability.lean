import PeerLanding.Completion

/-! What the one-step system says about the threads. A run of the threads without overlaps within a
company does, company by company, what some run of the one-step system does; and every run of that
system in which calls get through is one of these. -/

namespace PeerLanding.Threads

open Exchange

variable {R : Type}

/-! ### Companies that nothing is in the middle of -/

namespace Memoria

/-- The company, with its auctions and emissions in place of their references. -/
def quadro (m : Memoria R) (c : String) : Quadro R where
  empresa := (m.empresas c).map fun e =>
    ⟨c, e.historicoLeiloes.map m.leilao, e.historicoEmissoes.map m.emissao⟩
  leilao := (m.leiloes c).map m.leilao
  emissao := (m.emissoes c).map m.emissao
  terminaLeiloes := {t | t.empresa = c ∧ m.terminaLeiloes t.ref = some ⟨c, t.idL, .remove⟩}
  terminaEmissoes := {t | t.empresa = c ∧ m.terminaEmissoes t.ref = some ⟨c, t.idL, .remove⟩}
  registo := m.diretorio c

def Parada (m : Memoria R) (c : String) : Prop :=
  m.exchange.meio ≠ some c ∧ m.SemLeiloes c none ∧ m.SemEmissoes c none

instance (m : Memoria R) (c : String) : Decidable (m.Parada c) :=
  inferInstanceAs (Decidable (_ ∧ _ ∧ _))

variable {m : Memoria R} {c : String} {q : Quadro R} {dono : Nat → Option String}

theorem filterMap_proprio {α : Type} {f : Nat → α} {refs : List Nat}
    (there : ∀ ref ∈ refs, (proprio dono c (fun ref => some (f ref)) ref).isSome) :
    refs.filterMap (proprio dono c fun ref => some (f ref)) = refs.map f := by
  rw [← List.filterMap_eq_map]
  refine List.filterMap_congr fun ref here => ?_
  obtain ⟨x, seen⟩ := Option.isSome_iff_exists.1 (there ref here)
  rw [seen, Function.comp_apply, (proprio_eq_some.1 seen).2]

theorem Guardada.quadro (g : m.Guardada dono) (h : (m.parte dono c).Fiel c q) :
    m.quadro c = q := by
  rw [← h.quadro]
  ext1
  · cases he : m.empresas c with
    | none => simp [Memoria.quadro, Parte.quadro, parte, he]
    | some e =>
        have leiloes := filterMap_proprio (h.arrumada.historicoLeiloes e he)
        have emissoes := filterMap_proprio (h.arrumada.historicoEmissoes e he)
        simp [Memoria.quadro, Parte.quadro, parte, he, leiloes, emissoes]
  · cases atual : m.leiloes c with
    | none => simp [Memoria.quadro, Parte.quadro, parte, atual]
    | some ref =>
        obtain ⟨x, there⟩ := Option.isSome_iff_exists.1 (h.arrumada.leilaoAtual ref atual)
        simp only [Memoria.quadro, Parte.quadro, parte, atual, Option.map_some, Option.bind_some]
        exact (congrArg some (parte_leilao_eq.1 there).2).trans there.symm
  · cases atual : m.emissoes c with
    | none => simp [Memoria.quadro, Parte.quadro, parte, atual]
    | some ref =>
        obtain ⟨x, there⟩ := Option.isSome_iff_exists.1 (h.arrumada.emissaoAtual ref atual)
        simp only [Memoria.quadro, Parte.quadro, parte, atual, Option.map_some, Option.bind_some]
        exact (congrArg some (parte_emissao_eq.1 there).2).trans there.symm
  · ext t
    refine and_congr_right fun _ => ⟨fun there => ?_, fun there => (proprio_eq_some.1 there).2⟩
    exact proprio_eq_some.2 ⟨g.leiloes _ _ there, there⟩
  · ext t
    refine and_congr_right fun _ => ⟨fun there => ?_, fun there => (proprio_eq_some.1 there).2⟩
    exact proprio_eq_some.2 ⟨g.emissoes _ _ there, there⟩
  · rfl

theorem Sossegada.parada (h : m.Sossegada) (c : String) : m.Parada c := by
  refine ⟨?_, h.fios.semLeiloes c, h.fios.semEmissoes c⟩
  rcases h.exchange with at' | at' <;> simp [at', Ponto.meio, Ponto.empresa]

end Memoria

section Casas

variable [JavaFloat R] {K K' : LocalDateTime → Prop} {m : Memoria R} {s : Sistema R} {c : String}
  {dono : Nat → Option String}

/-- Where nothing is half done the two systems are the same. -/
theorem Serie.fiel (h : Serie K dono m s) (parada : m.Parada c) :
    (m.parte dono c).Fiel c (s.quadro c) := by
  obtain ⟨fora, semLeiloes, semEmissoes⟩ := parada
  cases h.casa c with
  | livre _ _ _ fiel => exact fiel
  | pedido dentro _ _ _ => exact absurd dentro fora
  | terminaLeilao _ _ _ at' meio _ _ =>
      have quiet := semLeiloes.parte h.guardada _ _ (by simp) at'
      rw [meio] at quiet
      cases quiet
  | terminaEmissao _ _ _ at' meio _ _ =>
      have quiet := semEmissoes.parte h.guardada _ _ (by simp) at'
      rw [meio] at quiet
      cases quiet

theorem EmSerie.quadro (h : EmSerie K m s) (parada : m.Parada c) : m.quadro c = s.quadro c := by
  obtain ⟨dono, h⟩ := h
  exact h.guardada.quadro (h.fiel parada)

/-- Between two pieces of work no clock is remembered. -/
theorem EmSerie.relogio (h : EmSerie K m s) (quiet : m.Sossegada) : EmSerie K' m s := by
  obtain ⟨dono, h⟩ := h
  refine ⟨dono, h.guardada, h.numerados, h.vivo, h.refs, fun c => ?_⟩
  obtain ⟨fora, semLeiloes, semEmissoes⟩ := quiet.parada c
  exact .livre fora (semLeiloes.parte h.guardada) (semEmissoes.parte h.guardada)
    (h.fiel (quiet.parada c))

end Casas

/-! ### Answers -/

section Respostas

def resposta : Resultado → Option Bool
  | .resposta sucesso => some sucesso
  | _ => none

def Feito.resposta : Feito R → Option Bool
  | .pedido _ r => Threads.resposta r
  | _ => none

def Lance.resposta (e : Lance R) : Option Bool := e.result.bind Threads.resposta

def Ponto.porEnviar (ponto : Ponto R) : Option Bool := ponto.decisao.bind Threads.resposta

variable [JavaFloat R] [Gson R] {nomes registadas : List String} {t : List (Lance R)}
  {m m' : Memoria R}

omit [JavaFloat R] [Gson R] in
theorem resposta_seguinte {x : Except Excecao (Memoria R)} {P : Pedido R}
    {r : Option Resultado} (ends : m.seguinte x = (r, m')) :
    ((m'.exchange.decisao <|> r).map (Feito.pedido P)).toList.filterMap Feito.resposta =
      (r.bind resposta).toList ++ m'.exchange.porEnviar.toList := by
  cases x with
  | ok m'' =>
      cases ends
      cases decided : m'.exchange.decisao with
      | none => simp [Ponto.porEnviar, decided]
      | some res => cases res <;> simp [Ponto.porEnviar, decided, Feito.resposta, resposta]
  | error e =>
      cases ends
      rfl

theorem Memoria.Passa.resposta {l : Passo R} {r : Option Resultado} (step : m.Passa l r m') :
    m.exchange.porEnviar.toList ++
        ((Lance.feito ⟨m, l, r, m'⟩).toList.filterMap Feito.resposta) =
      (Lance.resposta ⟨m, l, r, m'⟩).toList ++ m'.exchange.porEnviar.toList := by
  cases l with
  | recv P =>
      cases step.move with
      | recv at' =>
          simp only [Lance.feito, Lance.resposta, at']
          cases P <;> rfl
  | exchange agora agoraDiretorio =>
      have at' : m.passa agora agoraDiretorio = some (r, m') := step
      unfold Memoria.passa at at'
      simp only [Lance.feito, Lance.resposta]
      cases exch : m.exchange with
      | licitar _ _ _ _ _ =>
          rw [exch] at at'
          exact resposta_seguinte (Option.some.inj at')
      | emprestimo _ _ _ _ =>
          rw [exch] at at'
          exact resposta_seguinte (Option.some.inj at')
      | emissao _ _ _ =>
          rw [exch] at at'
          exact resposta_seguinte (Option.some.inj at')
      | leilao _ _ _ _ =>
          rw [exch] at at'
          exact resposta_seguinte (Option.some.inj at')
      | _ =>
          rw [exch] at at'
          cases at' <;> rfl
  | terminaLeilao ref =>
      cases step.move with
      | terminaLeilao at' corre op =>
          obtain ⟨_, exchange, _⟩ := terminaLeilao_threads op
          simp only [Lance.feito, Lance.resposta, Memoria.poeTerminaLeilao, exchange,
            Function.update_self]
          split <;> simp [Feito.resposta]
      | falhaTerminaLeilao at' corre op =>
          simp only [Lance.feito, Lance.resposta, Memoria.poeTerminaLeilao, Function.update_self]
          split <;> simp [Feito.resposta, Threads.resposta]
  | terminaEmissao ref =>
      cases step.move with
      | terminaEmissao at' corre op =>
          obtain ⟨_, _, exchange, _⟩ := terminaEmissao_threads op
          simp only [Lance.feito, Lance.resposta, Memoria.poeTerminaEmissao, exchange,
            Function.update_self]
          split <;> simp [Feito.resposta]
      | falhaTerminaEmissao at' corre op =>
          simp only [Lance.feito, Lance.resposta, Memoria.poeTerminaEmissao, Function.update_self]
          split <;> simp [Feito.resposta, Threads.resposta]

/-- What is decided is sent, in that order. -/
theorem respostas_run (run : Run nomes registadas t m) :
    (t.filterMap Lance.feito).filterMap Feito.resposta =
      t.filterMap Lance.resposta ++ m.exchange.porEnviar.toList := by
  refine Runs.Run.invariant (fun t m => (t.filterMap Lance.feito).filterMap Feito.resposta =
    t.filterMap Lance.resposta ++ m.exchange.porEnviar.toList) run rfl ?_
  intro t m l r m' _ ih step
  rw [Runs.filterMap_concat, Runs.filterMap_concat, List.filterMap_append, ih, List.append_assoc,
    step.resposta, List.append_assoc]

end Respostas

/-! ### From the threads to the one-step system -/

section Serializavel

variable [JavaFloat R] [Gson R] {nomes registadas : List String} {t : List (Lance R)}
  {m : Memoria R} {s s' : Sistema R}

abbrev Chega (e : Transicao R) : Prop := Entregue (fun _ => True) (fun _ => True) e

theorem filterMap_some_eq_map {α β : Type} (f : α → β) (l : List α) :
    l.filterMap (fun a => some (f a)) = l.map f :=
  congrFun List.filterMap_eq_map l

omit [JavaFloat R] [Gson R] in
theorem relogios_true (l : Passo R) : Relogios (fun _ => True) (fun _ => True) l := by
  cases l <;> simp [Relogios]

theorem serializa (run : Run nomes registadas t m) (isolado : ∀ e ∈ t, e.pre.Isolado e.label) :
    ∃ v s, Sistema.Run nomes registadas v s ∧ (∀ e ∈ v, Chega e) ∧
      v.map feito = t.filterMap Lance.feito ∧ EmSerie (fun _ => True) m s := by
  have start : EmSerie (fun _ => True) (Memoria.inicial nomes registadas : Memoria R)
      (Sistema.inicial nomes registadas) := emSerie_inicial nomes registadas
  have clock : ∃ _ : LocalDateTime, True := ⟨.atNano 0, trivial⟩
  obtain ⟨v, s, run', delivered, same, ends⟩ :=
    (simulado clock clock).run run (fun e he => ⟨isolado e he, relogios_true _⟩) start
  rw [filterMap_some_eq_map] at same
  exact ⟨v, s, run', delivered, same, ends⟩

/-- A run of the threads in which nothing overlaps within a company does what a run of the one-step
system does, in which all calls get through: the same requests are decided and the same settlements
end, in the same order and with the same results, and the companies that nothing is in the middle of
are the same. The answers are sent in that order too. -/
theorem serializability (run : Run nomes registadas t m)
    (isolado : ∀ e ∈ t, e.pre.Isolado e.label) :
    ∃ v s, Sistema.Run nomes registadas v s ∧ (∀ e ∈ v, Chega e) ∧
      v.map feito = t.filterMap Lance.feito ∧ (∀ c, m.Parada c → m.quadro c = s.quadro c) ∧
      (v.map feito).filterMap Feito.resposta =
        t.filterMap Lance.resposta ++ m.exchange.porEnviar.toList := by
  obtain ⟨v, s, run', delivered, same, ends⟩ := serializa run isolado
  refine ⟨v, s, run', delivered, same, fun c parada => ends.quadro parada, ?_⟩
  rw [same]
  exact respostas_run run

/-- The auction of `CanecaLda` is settled while `SapatoLda` opens one. -/
def doisFios : List (Passo Binary32) :=
  umLeilao ++ [.recv (.leilao "SapatoLda" 2000 (.intBitsToFloat 0x3D4CCCCD)), .terminaLeilao 0,
    .exchange (.atNano 1) (.atNano 1), .terminaLeilao 0, .exchange (.atNano 2) (.atNano 2),
    .terminaLeilao 0, .terminaLeilao 0, .exchange (.atNano 3) (.atNano 3), .terminaLeilao 0,
    .exchange (.atNano 4) (.atNano 4), .terminaLeilao 0, .exchange (.atNano 5) (.atNano 5),
    .exchange (.atNano 6) (.atNano 6)]

theorem doisFios_taken :
    (Memoria.corrida ["CanecaLda", "SapatoLda"] Directory.nomes doisFios).isSome := by
  decide +kernel

theorem serializability_doisFios :
    ∃ (t : List (Lance Binary32)) (m : Memoria Binary32) (v : List (Transicao Binary32))
      (s : Sistema Binary32),
      Run ["CanecaLda", "SapatoLda"] Directory.nomes t m ∧
        Sistema.Run ["CanecaLda", "SapatoLda"] Directory.nomes v s ∧ v.length = 3 ∧
        m.quadro "CanecaLda" = s.quadro "CanecaLda" := by
  obtain ⟨v, s, run', _, same, quadros, _⟩ := serializability (Memoria.run_corrida doisFios_taken)
    (by decide +kernel)
  refine ⟨_, _, v, s, Memoria.run_corrida doisFios_taken, run', ?_, quadros _ (by decide +kernel)⟩
  rw [← v.length_map feito, same]
  decide +kernel

end Serializavel

/-! ### And back -/

section Volta

variable [JavaFloat R] [Gson R] {nomes registadas : List String} {K : LocalDateTime → Prop}
  {m : Memoria R} {s s' : Sistema R} {l : Exchange.Passo R} {r : Resultado}

/-- A run of the threads that does what a step of the other system does ends where that step
does. -/
theorem EmSerie.cumprido (amb : Ambiente) {F : Resultado → Feito R} (h : EmSerie K m s)
    (quiet : m.Sossegada)
    (only : ∀ e r', Entregue (Eq amb.agora) (Eq amb.agoraDiretorio) e → feito e = F r' →
      e.label = l ∧ e.result = r')
    (goes : ∃ r', Cumpre (Eq amb.agora) (Eq amb.agoraDiretorio) m [F r'] Memoria.Sossegada)
    (step : s.Passa l r s') :
    Cumpre (fun _ => True) (fun _ => True) m [F r] fun m' =>
      EmSerie (fun _ => True) m' s' ∧ m'.Sossegada := by
  obtain ⟨r', u, m', run, kept, shown, quiet'⟩ := goes
  obtain ⟨v, s'', run', delivered, same, ends⟩ :=
    (simulado ⟨_, rfl⟩ ⟨_, rfl⟩).run run kept (h.relogio quiet)
  rw [filterMap_some_eq_map, shown, List.map_eq_singleton_iff] at same
  obtain ⟨e, rfl, did⟩ := same
  obtain ⟨start, took, rfl⟩ := Runs.Run.of_snoc (t := []) run'
  obtain ⟨label, result⟩ := only e r' (delivered e (List.mem_singleton_self e)) did
  rw [start.of_nil, label, result] at took
  have once : some (r', e.post) = some (r, s') := took.symm.trans step
  cases once
  refine ⟨u, m', run, fun d hd => ⟨(kept d hd).1, relogios_true _⟩, shown, ?_⟩
  exact ⟨ends.relogio quiet', quiet'⟩

omit [JavaFloat R] [Gson R] in
theorem ambiente_eq {amb amb' : Ambiente} (sent : amb.entregue = true)
    (same : amb'.entregue = true ∧ amb.agora = amb'.agora ∧
      amb.agoraDiretorio = amb'.agoraDiretorio) : amb' = amb := by
  cases amb
  cases amb'
  simp_all

omit [Gson R] in
theorem EmSerie.terminaLeiloes (h : EmSerie K m s) (quiet : m.Sossegada) {thread : TerminaLeilao}
    (por : thread ∈ s.terminaLeiloes) :
    m.terminaLeiloes thread.ref = some ⟨thread.empresa, thread.idL, .remove⟩ := by
  have there : thread ∈ (s.quadro thread.empresa).terminaLeiloes := ⟨por, rfl⟩
  rw [← h.quadro (quiet.parada thread.empresa)] at there
  exact there.2

omit [Gson R] in
theorem EmSerie.terminaEmissoes (h : EmSerie K m s) (quiet : m.Sossegada)
    {thread : TerminaEmissao} (por : thread ∈ s.terminaEmissoes) :
    m.terminaEmissoes thread.ref = some ⟨thread.empresa, thread.idL, .remove⟩ := by
  have there : thread ∈ (s.quadro thread.empresa).terminaEmissoes := ⟨por, rfl⟩
  rw [← h.quadro (quiet.parada thread.empresa)] at there
  exact there.2

/-- Every step of the one-step system in which calls get through is done by the threads. -/
theorem cumprido : Runs.Simulated (Sistema.Passa (R := R)) Chega (fun e => some (feito e))
    Memoria.Passa (Lance.Isolado (fun _ => True) fun _ => True) Lance.feito
    (fun s m => EmSerie (fun _ => True) m s ∧ m.Sossegada) := by
  intro s l r s' m related step sent
  obtain ⟨h, quiet⟩ := related
  cases l with
  | pedido amb P =>
      have vivo : m.exchange ≠ .fim := by
        obtain ⟨dono, h⟩ := h
        exact h.vivo.1 (Sistema.passa_pedido step).1
      have goes : ∃ r', Cumpre (Eq amb.agora) (Eq amb.agoraDiretorio) m [.pedido P r']
          Memoria.Sossegada := recv_cumpre ⟨_, rfl⟩ ⟨_, rfl⟩ quiet vivo P
      refine h.cumprido amb quiet ?_ goes step
      rintro ⟨pre, _ | _ | _, r, post⟩ r' same did <;> cases did
      exact ⟨by rw [ambiente_eq sent.1 same], rfl⟩
  | terminaLeilao amb thread =>
      have por : thread ∈ s.terminaLeiloes := by
        simp only [Sistema.Passa, Sistema.proximo, Option.ite_none_right_eq_some] at step
        exact step.1
      refine h.cumprido amb quiet ?_ (terminaLeilao_cumpre ⟨fun ref fio _ => ?_, quiet.fios.2⟩
        quiet.exchange (h.terminaLeiloes quiet por) (by simp)) step
      · rintro ⟨pre, _ | _ | _, r, post⟩ r' same did <;> cases did
        exact ⟨by rw [ambiente_eq sent.1 same], rfl⟩
      · exact quiet.fios.1 ref fio (by simp)
  | terminaEmissao amb thread =>
      have por : thread ∈ s.terminaEmissoes := by
        simp only [Sistema.Passa, Sistema.proximo, Option.ite_none_right_eq_some] at step
        exact step.1
      refine h.cumprido amb quiet ?_ (terminaEmissao_cumpre ⟨quiet.fios.1, fun ref fio _ => ?_⟩
        quiet.exchange (h.terminaEmissoes quiet por) (by simp)) step
      · rintro ⟨pre, _ | _ | _, r, post⟩ r' same did <;> cases did
        exact ⟨by rw [ambiente_eq sent.1 same], rfl⟩
      · exact quiet.fios.2 ref fio (by simp)

omit [Gson R] in
theorem sossegada_inicial (nomes registadas : List String) :
    (Memoria.inicial nomes registadas : Memoria R).Sossegada := by
  refine ⟨.inl rfl, fun ref fio _ there => ?_, fun ref fio _ there => ?_⟩
  · cases there
  · cases there

/-- The threads, as long as nothing overlaps within a company, and the one-step system, as long as
all calls get through, do the same: `fs` can be done and leave the companies as in `quadros` in one
exactly when it can in the other. -/
theorem serializability_iff (fs : List (Feito R)) (quadros : String → Quadro R) :
    (∃ t m, Run nomes registadas t m ∧ (∀ e ∈ t, e.pre.Isolado e.label) ∧ m.Sossegada ∧
      t.filterMap Lance.feito = fs ∧ m.quadro = quadros) ↔
    ∃ v s, Sistema.Run nomes registadas v s ∧ (∀ e ∈ v, Chega e) ∧ v.map feito = fs ∧
      s.quadro = quadros := by
  constructor
  · rintro ⟨t, m, run, isolado, quiet, rfl, rfl⟩
    obtain ⟨v, s, run', delivered, same, ends⟩ := serializa run isolado
    exact ⟨v, s, run', delivered, same,
      funext fun c => (ends.quadro (quiet.parada c)).symm⟩
  · rintro ⟨v, s, run, delivered, rfl, rfl⟩
    obtain ⟨t, m, run', isolado, same, ends, quiet⟩ := cumprido.run run delivered
      ⟨emSerie_inicial nomes registadas, sossegada_inicial nomes registadas⟩
    rw [filterMap_some_eq_map] at same
    exact ⟨t, m, run', fun e he => (isolado e he).1, quiet, same,
      funext fun c => ends.quadro (quiet.parada c)⟩

end Volta

end PeerLanding.Threads
