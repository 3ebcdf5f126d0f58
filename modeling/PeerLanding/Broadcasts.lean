import PeerLanding.Frontend
import PeerLanding.Readers
import PeerLanding.Subscriptions

/-! The exchanges, the broker and the clients as subscribers. A notice waits on the `pub` socket
of its exchange until the broker's proxy passes it on to the clients; no notice is lost. A client
that has subscribed to a company can follow its auctions and emissions by the texts it gets. -/

namespace PeerLanding

open Exchange Frontend

/-- The exchanges, each with the notices that wait on its `pub` socket, the Directory they share,
and for every client its subscriptions and its mailbox. -/
structure Praca (R : Type) where
  exchanges : String → Option (Estacao R)
  diretorio : Directory R
  subscricoes : Nat → List String
  mailbox : Nat → List String

namespace Praca

inductive Evento (R : Type) where
  | exchange (endereco : String) (l : Passo R)
  | proxy (endereco : String)
  | subscricao (cliente : Nat) (tipo empresas : String)

variable {R : Type} [JavaFloat R] [Gson R]

/-- A client's `sub` socket and its thread put a notice that gets through into the mailbox. -/
def recv (mostra : R → String) (p : Praca R) (aviso : Aviso R) (cliente : Nat) : List String :=
  if Client.recebe (p.subscricoes cliente) (aviso.texto mostra) then
    p.mailbox cliente ++ [aviso.texto mostra]
  else p.mailbox cliente

def proximo (mostra : R → String) (p : Praca R) :
    Evento R → Option (Option Resultado × Praca R)
  | .exchange endereco l =>
      match p.exchanges endereco with
      | none => none
      | some (s, fila) =>
          (Estacao.proximo ({ s with diretorio := p.diretorio }, fila) l).map fun q =>
            (some q.1, { p with
              exchanges := Function.update p.exchanges endereco (some q.2)
              diretorio := q.2.1.diretorio })
  | .proxy endereco =>
      match p.exchanges endereco with
      | some (s, aviso :: fila) =>
          some (none, { p with
            exchanges := Function.update p.exchanges endereco (some (s, fila))
            mailbox := p.recv mostra aviso })
      | _ => none
  | .subscricao cliente tipo empresas =>
      some (none, { p with
        subscricoes := Function.update p.subscricoes cliente
          (p.subscricoes cliente ++ Client.Notifier.subscricao tipo empresas) })

def inicial : Praca R where
  exchanges := fun endereco =>
    (main.lookup endereco).map fun nomes => Estacao.inicial nomes Directory.nomes
  diretorio := Directory.novo
  subscricoes := fun _ => []
  mailbox := fun _ => []

def Passa (mostra : R → String) (p : Praca R) (e : Evento R) (r : Option Resultado)
    (p' : Praca R) : Prop := p.proximo mostra e = some (r, p')

abbrev Lance (R : Type) : Type := Runs.Transition (Praca R) (Evento R) (Option Resultado)

abbrev Run (mostra : R → String) : List (Lance R) → Praca R → Prop :=
  Runs.Run (Passa mostra) inicial

def corrida (mostra : R → String) (eventos : List (Evento R)) :
    Option (List (Lance R) × Praca R) := Runs.exec (proximo mostra) inicial eventos

theorem run_corrida {mostra : R → String} {eventos : List (Evento R)}
    (h : (corrida mostra eventos).isSome) :
    Run mostra ((corrida mostra eventos).get h).1 ((corrida mostra eventos).get h).2 :=
  Runs.run_exec h

/-! ### What the broker has passed on -/

def passagem (p : Praca R) : Evento R → Option (String × Aviso R)
  | .proxy endereco =>
      match p.exchanges endereco with
      | some (_, aviso :: _) => some (endereco, aviso)
      | _ => none
  | _ => none

def passagens (t : List (Lance R)) : List (String × Aviso R) :=
  t.filterMap fun e => e.pre.passagem e.label

def passados (endereco : String) (t : List (Lance R)) : List (Aviso R) :=
  ((passagens t).filter fun x => x.1 = endereco).map (·.2)

variable {mostra : R → String} {p p' q : Praca R} {ev : Evento R} {r : Option Resultado}
  {t u : List (Lance R)} {endereco outro : String} {aviso : Aviso R}

omit [JavaFloat R] [Gson R] in
theorem passagens_concat (t : List (Lance R)) (e : Lance R) :
    passagens (t ++ [e]) = passagens t ++ (e.pre.passagem e.label).toList :=
  Runs.filterMap_concat _ t e

omit [JavaFloat R] [Gson R] in
theorem passados_append (t u : List (Lance R)) :
    passados endereco (t ++ u) = passados endereco t ++ passados endereco u := by
  simp [passados, passagens]

omit [JavaFloat R] [Gson R] in
theorem passados_concat_none (silent : p.passagem ev = none) :
    passados endereco (t ++ [⟨p, ev, r, p'⟩]) = passados endereco t := by
  rw [passados, passagens_concat]
  simp [silent, passados]

omit [JavaFloat R] [Gson R] in
theorem passados_concat_some (passed : p.passagem ev = some (outro, aviso)) :
    passados endereco (t ++ [⟨p, ev, r, p'⟩]) =
      passados endereco t ++ if outro = endereco then [aviso] else [] := by
  rw [passados, passagens_concat]
  by_cases same : outro = endereco <;> simp [passed, same, passados]

/-! ### Steps -/

/-- What a step does, and the notice that it passes on. -/
inductive Move (mostra : R → String) (p : Praca R) : Option (String × Aviso R) → Praca R → Prop
  | exchange {endereco : String} {s : Sistema R} {fila : List (Aviso R)} {l : Passo R}
      {r : Resultado} {e : Estacao R} (found : p.exchanges endereco = some (s, fila))
      (step : Estacao.Passa ({ s with diretorio := p.diretorio }, fila) l r e) :
      Move mostra p none { p with
        exchanges := Function.update p.exchanges endereco (some e)
        diretorio := e.1.diretorio }
  | proxy {endereco : String} {s : Sistema R} {aviso : Aviso R} {fila : List (Aviso R)}
      (found : p.exchanges endereco = some (s, aviso :: fila)) :
      Move mostra p (some (endereco, aviso)) { p with
        exchanges := Function.update p.exchanges endereco (some (s, fila))
        mailbox := p.recv mostra aviso }
  | subscricao (cliente : Nat) (tipo empresas : String) :
      Move mostra p none { p with
        subscricoes := Function.update p.subscricoes cliente
          (p.subscricoes cliente ++ Client.Notifier.subscricao tipo empresas) }

theorem Passa.move (h : p.Passa mostra ev r p') : Move mostra p (p.passagem ev) p' := by
  unfold Passa at h
  cases ev with
  | exchange endereco l =>
      simp only [proximo] at h
      split at h
      · cases h
      · next s fila found =>
          obtain ⟨q, step, same⟩ := Option.map_eq_some_iff.1 h
          cases same
          exact .exchange found step
  | proxy endereco =>
      simp only [proximo] at h
      split at h
      · next s aviso fila found =>
          cases h
          simp only [passagem, found]
          exact .proxy found
      · cases h
  | subscricao cliente tipo empresas =>
      cases h
      exact .subscricao cliente tipo empresas

/-! ### What the exchanges have sent -/

/-- The notices passed on, and those that wait. -/
def enviados (endereco : String) (t : List (Lance R)) (p : Praca R) : List (Aviso R) :=
  passados endereco t ++ ((p.exchanges endereco).map (·.2)).getD []

omit [JavaFloat R] [Gson R] in
theorem enviados_eq {e : Estacao R} (found : p.exchanges endereco = some e) :
    enviados endereco t p = passados endereco t ++ e.2 := by
  rw [enviados, found]
  rfl

omit [JavaFloat R] [Gson R] in
theorem enviados_inicial : enviados endereco [] (Praca.inicial : Praca R) = [] := by
  cases listed : main.lookup endereco <;>
    simp [enviados, passados, passagens, Praca.inicial, Estacao.inicial, listed]

omit [Gson R] in
theorem contada_noDiretorio {nomes : List String}
    {s : Sistema R} {fila : List (Aviso R)} (h : Contada nomes (s, fila))
    (diretorio : Directory R) : Contada nomes ({ s with diretorio }, fila) where
  hospeda := h.hospeda
  alheia := h.alheia
  ausente vivo c hc := ⟨(h.ausente vivo c hc).empresa, (h.ausente vivo c hc).leilao,
    (h.ausente vivo c hc).emissao⟩
  avisos := h.avisos
  lidos c hc tipo := by
    have same : (Sistema.ficha { s with diretorio } c).historia tipo =
        (s.ficha c).historia tipo := by cases tipo <;> rfl
    rw [same]
    exact h.lidos c hc tipo

/-- A step of the exchange at `endereco` sends at most one notice, and the broker none. -/
theorem Passa.enviados (h : p.Passa mostra ev r p') (endereco : String) (t : List (Lance R)) :
    ∃ new, Praca.enviados endereco (t ++ [⟨p, ev, r, p'⟩]) p' = Praca.enviados endereco t p ++ new ∧
      new.length ≤ 1 := by
  have step := h.move
  generalize passed : p.passagem ev = m at step
  cases step with
  | @exchange outro s fila l r e found step =>
      rw [Praca.enviados, passados_concat_none passed]
      by_cases same : endereco = outro
      · obtain rfl := same
        have sent := (Estacao.passa_iff.1 step).2
        refine ⟨l.avisos { s with diretorio := p.diretorio }, ?_, l.length_avisos _⟩
        simp [sent, enviados_eq found]
      · refine ⟨[], ?_, by simp⟩
        simp [Function.update_of_ne same, Praca.enviados]
  | @proxy outro s aviso fila found =>
      refine ⟨[], ?_, by simp⟩
      rw [Praca.enviados, passados_concat_some passed]
      by_cases same : endereco = outro
      · obtain rfl := same
        simp [enviados_eq found]
      · simp [Function.update_of_ne same, Ne.symm same, Praca.enviados]
  | subscricao cliente tipo empresas =>
      refine ⟨[], ?_, by simp⟩
      rw [Praca.enviados, passados_concat_none passed]
      simp [Praca.enviados]

/-- The exchanges of `Exchange.main`, and what they have sent is as it should be. -/
structure Boa (t : List (Lance R)) (p : Praca R) : Prop where
  completa : ∀ endereco nomes, main.lookup endereco = some nomes →
    (p.exchanges endereco).isSome
  contada : ∀ endereco e, p.exchanges endereco = some e →
    ∃ nomes, main.lookup endereco = some nomes ∧
      Contada nomes (e.1, passados endereco t ++ e.2)

omit [Gson R] in
theorem boa_inicial : Boa [] (Praca.inicial : Praca R) where
  completa endereco nomes listed := by simp [Praca.inicial, listed]
  contada endereco e found := by
    obtain ⟨nomes, listed, rfl⟩ := Option.map_eq_some_iff.1 found
    exact ⟨nomes, listed, contada_inicial⟩

omit [Gson R] in
theorem Boa.update (h : Boa t p) {e e' : Estacao R} {x : Praca R} {t' : List (Lance R)}
    (found : p.exchanges endereco = some e)
    (keeps : ∀ nomes, Contada nomes (e.1, passados endereco t ++ e.2) →
      Contada nomes (e'.1, passados endereco t' ++ e'.2))
    (others : ∀ outro ≠ endereco, passados outro t' = passados outro t)
    (now : x.exchanges = Function.update p.exchanges endereco (some e')) : Boa t' x where
  completa outro nomes listed := by
    rw [now, Function.update_apply]
    split
    · rfl
    · exact h.completa outro nomes listed
  contada outro f here := by
    rw [now, Function.update_apply] at here
    split at here
    · next same =>
        cases here
        obtain ⟨nomes, listed, told⟩ := h.contada endereco e found
        exact ⟨nomes, same ▸ listed, same ▸ keeps nomes told⟩
    · next other =>
        rw [others outro other]
        exact h.contada outro f here

theorem Boa.passa (h : Boa t p) (step : p.Passa mostra ev r p') :
    Boa (t ++ [⟨p, ev, r, p'⟩]) p' := by
  have move := step.move
  generalize passed : p.passagem ev = m at move
  cases move with
  | exchange found ran =>
      refine h.update found (fun nomes told => ?_) (fun _ _ => passados_concat_none passed) rfl
      obtain ⟨ran, sent⟩ := Estacao.passa_iff.1 ran
      rw [passados_concat_none passed, sent, ← List.append_assoc]
      exact (contada_noDiretorio told p.diretorio).passa (Estacao.passa_iff.2 ⟨ran, rfl⟩)
  | proxy found =>
      refine h.update found (fun nomes told => ?_) (fun outro other => ?_) rfl
      · rw [passados_concat_some passed, if_pos rfl, List.append_assoc]
        exact told
      · rw [passados_concat_some passed, if_neg other.symm, List.append_nil]
  | subscricao cliente tipo empresas =>
      refine ⟨h.completa, ?_⟩
      simp only [passados_concat_none passed]
      exact h.contada

theorem Run.boa (h : Run mostra t p) : Boa t p := by
  refine Runs.Run.invariant (fun t p => Boa t p) h boa_inicial ?_
  intro t p ev r p' _ ih step
  exact ih.passa step

theorem main_disjunto : ∀ x ∈ main, ∀ y ∈ main, ∀ c ∈ x.2, c ∈ y.2 → x.1 = y.1 := by
  decide +kernel

theorem main_hifen : ∀ x ∈ main, ∀ c ∈ x.2, '-' ∉ c.toList := by decide +kernel

omit [Gson R] in
theorem Boa.regular (h : Boa t p) {e : Estacao R} (found : p.exchanges endereco = some e)
    {a : Aviso R} (ha : a ∈ e.2) : a.Regular := by
  obtain ⟨nomes, listed, told⟩ := h.contada endereco e found
  have sent := told.avisos a (List.mem_append_right _ ha)
  exact ⟨main_hifen _ (mem_of_lookup listed) _ sent.1, sent.2⟩

/-- What a client gets of the notices of the exchanges by one call of `subscricao`: those about
the first ten companies that it names, or, when it names none, those that begin with the type. -/
theorem subscriptions {tipo empresas : String} (spaceless : ' ' ∉ tipo.toList)
    (h : Run mostra t p) {e : Estacao R}
    (found : p.exchanges endereco = some e) {a : Aviso R} (ha : a ∈ e.2) :
    Client.recebe (Client.Notifier.subscricao tipo empresas) (a.texto mostra) = true ↔
      (Client.split empresas = [] ∧ tipo.toList <+: (a.texto mostra).toList) ∨
        (tipo = a.tipo.nome ∧ a.empresa ∈ (Client.split empresas).take 10) :=
  Client.recebe_subscricao spaceless ((Run.boa h).regular found ha).empresa

/-! ### What was so -/

variable {k : Nat} {c : String} {tipo : Recurso} {h h' : Historia R}

/-- `h` was so when the exchange had sent the notices that have been passed on by now, and no
others. -/
def Era (mostra : R → String) (endereco c : String) (tipo : Recurso) (t : List (Lance R))
    (h : Historia R) : Prop :=
  ∃ u x e, u <+: t ∧ Run mostra u x ∧ x.exchanges endereco = some e ∧
    passados endereco u ++ e.2 = passados endereco t ∧ (e.1.ficha c).historia tipo = h

/-- It is what the notices passed on tell of a hosted company. -/
theorem era_iff (run : Run mostra t p) {nomes : List String}
    (listed : main.lookup endereco = some nomes) (hc : c ∈ nomes) :
    Era mostra endereco c tipo t h ↔
      (passados endereco t).foldlM (Historia.le tipo c) {} = some h := by
  have told {u : List (Lance R)} {x : Praca R} (reached : Run mostra u x) {e : Estacao R}
      (found : x.exchanges endereco = some e) :
      (passados endereco u ++ e.2).foldlM (Historia.le tipo c) {} =
        some ((e.1.ficha c).historia tipo) := by
    obtain ⟨nomes', listed', told⟩ := (Run.boa reached).contada endereco e found
    cases listed.symm.trans listed'
    exact told.lidos c hc tipo
  constructor
  · rintro ⟨u, x, e, _, reached, found, same, rfl⟩
    rw [← same]
    exact told reached found
  · intro read
    have passed : (passados endereco t).length ≤ (enviados endereco t p).length := by
      rw [enviados, List.length_append]
      exact Nat.le_add_right _ _
    obtain ⟨u, x, before, reached, same⟩ := Runs.Run.exists_take (enviados endereco) run
      enviados_inicial (fun t p ev r p' _ step => Passa.enviados step endereco t) passed
    obtain ⟨e, found⟩ := Option.isSome_iff_exists.1
      ((Run.boa reached).completa endereco nomes listed)
    rw [enviados_eq found, enviados, List.take_left] at same
    have truth := told reached found
    rw [same, read, Option.some.injEq] at truth
    exact ⟨u, x, e, before, reached, found, same, truth.symm⟩

theorem exists_era (tipo : Recurso) (run : Run mostra t p) {nomes : List String}
    (listed : main.lookup endereco = some nomes) (hc : c ∈ nomes) :
    ∃ h, (passados endereco t).foldlM (Historia.le tipo c) {} = some h := by
  obtain ⟨e, found⟩ := Option.isSome_iff_exists.1 ((Run.boa run).completa endereco nomes listed)
  obtain ⟨nomes', listed', told⟩ := (Run.boa run).contada endereco e found
  cases listed.symm.trans listed'
  have all := told.lidos c hc tipo
  rw [List.foldlM_append, Option.bind_eq_bind, Option.bind_eq_some_iff] at all
  obtain ⟨h, first, _⟩ := all
  exact ⟨h, first⟩

/-! ### Following a company -/

/-- The texts that have come since `q` are those of `as`. -/
structure Leitura (mostra : R → String) (k : Nat) (q p : Praca R) (as : List (Aviso R)) :
    Prop where
  regular : ∀ a ∈ as, a.Regular
  textos : p.mailbox k = q.mailbox k ++ as.map (·.texto mostra)

/-- The client `k` gets every notice about the auctions, or the emissions, of the company. -/
def Assina (mostra : R → String) (k : Nat) (c : String) (tipo : Recurso) (p : Praca R) : Prop :=
  ∀ a : Aviso R, a.Regular → a.tipo = tipo ∧ a.empresa = c →
    Client.recebe (p.subscricoes k) (a.texto mostra) = true

theorem Assina.passa (h : p.Assina mostra k c tipo) (step : p.Passa mostra ev r p') :
    p'.Assina mostra k c tipo := by
  have move := step.move
  generalize p.passagem ev = m at move
  cases move with
  | exchange _ _ => exact h
  | proxy _ => exact h
  | subscricao cliente tipo' empresas =>
      intro a regular about
      have before := h a regular about
      by_cases same : k = cliente
      · obtain rfl := same
        dsimp only
        rw [Function.update_self, Client.recebe, List.any_append, ← Client.recebe, before]
        rfl
      · dsimp only
        rw [Function.update_of_ne same]
        exact before

/-- What the client `k` has got in `u`: among the notices passed on all those about the company,
in their order. -/
def Segue (mostra : R → String) (k : Nat) (endereco c : String) (tipo : Recurso)
    (q : Praca R) (u : List (Lance R)) (p : Praca R) : Prop :=
  ∃ as, Leitura mostra k q p as ∧ as.Sublist ((passagens u).map (·.2)) ∧
    as.filter (Aviso.sobre tipo c) = (passados endereco u).filter (Aviso.sobre tipo c)

omit [Gson R] in
theorem Boa.sobre (boa : Boa t p) {nomes : List String}
    (listed : main.lookup endereco = some nomes) (hc : c ∈ nomes) {e : Estacao R}
    (found : p.exchanges outro = some e) {a : Aviso R} (ha : a ∈ e.2)
    (about : a.sobre tipo c = true) : outro = endereco := by
  obtain ⟨nomes', listed', told⟩ := boa.contada outro e found
  simp only [Aviso.sobre, decide_eq_true_eq] at about
  have hosted := (told.avisos a (List.mem_append_right _ ha)).1
  exact main_disjunto _ (mem_of_lookup listed') _ (mem_of_lookup listed) _ hosted (about.2 ▸ hc)

theorem Segue.passa (follows : Segue mostra k endereco c tipo q u p) (boa : Boa t p)
    (assina : p.Assina mostra k c tipo) {nomes : List String}
    (listed : main.lookup endereco = some nomes) (hc : c ∈ nomes)
    (step : p.Passa mostra ev r p') :
    Segue mostra k endereco c tipo q (u ++ [⟨p, ev, r, p'⟩]) p' := by
  obtain ⟨as, ⟨regular, got⟩, sub, kept⟩ := follows
  have move := step.move
  generalize passed : p.passagem ev = m at move
  cases move with
  | exchange _ _ =>
      refine ⟨as, ⟨regular, got⟩, ?_, by rw [passados_concat_none passed, kept]⟩
      simpa [passagens_concat, passed] using sub
  | subscricao cliente tipo' empresas =>
      refine ⟨as, ⟨regular, got⟩, ?_, by rw [passados_concat_none passed, kept]⟩
      simpa [passagens_concat, passed] using sub
  | @proxy outro s aviso fila found =>
      have well := boa.regular found List.mem_cons_self
      -- a notice about the company comes from its exchange
      have here (x : Praca R) : (passados endereco (u ++ [⟨p, ev, r, x⟩])).filter
          (Aviso.sobre tipo c) = (passados endereco u).filter (Aviso.sobre tipo c) ++
            [aviso].filter (Aviso.sobre tipo c) := by
        rw [passados_concat_some passed, List.filter_append]
        by_cases about : aviso.sobre tipo c = true
        · rw [if_pos (boa.sobre listed hc found List.mem_cons_self about)]
        · split <;> simp [about]
      by_cases gets : Client.recebe (p.subscricoes k) (aviso.texto mostra) = true
      · refine ⟨as ++ [aviso], ⟨?_, by simp [recv, gets, got]⟩, ?_, ?_⟩
        · intro a ha
          rw [List.mem_append, List.mem_singleton] at ha
          cases ha with
          | inl old => exact regular a old
          | inr new => exact new ▸ well
        · simpa [passagens_concat, passed] using sub.append (List.Sublist.refl [aviso])
        · rw [List.filter_append, kept, here]
      · refine ⟨as, ⟨regular, by simp [recv, gets, got]⟩, ?_, ?_⟩
        · rw [passagens_concat, List.map_append]
          exact sub.trans (List.sublist_append_left _ _)
        · have other : ¬aviso.sobre tipo c = true := by
            intro about
            simp only [Aviso.sobre, decide_eq_true_eq] at about
            exact gets (assina aviso well about)
          rw [here, kept, List.filter_cons_of_neg other, List.filter_nil, List.append_nil]

theorem assina_subscricao {empresas : String} (asked : c ∈ (Client.split empresas).take 10)
    (step : q.Passa mostra (.subscricao k tipo.nome empresas) r p) :
    p.Assina mostra k c tipo := by
  cases step
  intro a regular about
  obtain ⟨rfl, rfl⟩ := about
  have spaceless : ' ' ∉ a.tipo.nome.toList := by cases a.tipo <;> decide
  have gets : Client.recebe (Client.Notifier.subscricao a.tipo.nome empresas) (a.texto mostra) =
      true := (Client.recebe_subscricao spaceless regular.empresa).2 (.inr ⟨rfl, asked⟩)
  dsimp only
  rw [Function.update_self, Client.recebe, List.any_append, ← Client.recebe, ← Client.recebe, gets,
    Bool.or_true]

omit [Gson R] in
theorem texts_inj (spaceless : ∀ x, ' ' ∉ (mostra x).toList) (inj : Function.Injective mostra)
    {as bs : List (Aviso R)} (ha : ∀ a ∈ as, a.Regular) (hb : ∀ b ∈ bs, b.Regular)
    (same : as.map (·.texto mostra) = bs.map (·.texto mostra)) : as = bs := by
  induction as generalizing bs with
  | nil => simpa using same.symm
  | cons a as ih =>
      cases bs with
      | nil => cases same
      | cons b bs =>
          simp only [List.map_cons, List.cons.injEq] at same
          rw [List.forall_mem_cons] at ha hb
          rw [(Aviso.texto_inj spaceless inj ha.1 hb.1).1 same.1, ih ha.2 hb.2 same.2]

/-- What a client knows after `t` and `u` by the texts that came in `u`. They are those of notices
passed on, and can be read in one way. Who knew what was so when the notices passed on in `t` had
been sent knows after reading what was so when those of `u` had been sent too; and who knew nothing
knows what was open then, once a beginning or an end has come. -/
structure Acompanha (mostra : R → String) (k : Nat) (endereco c : String) (tipo : Recurso)
    (t u : List (Lance R)) (q p : Praca R) : Prop where
  unica : ∃! as, Leitura mostra k q p as
  vieram : ∀ as, Leitura mostra k q p as → as.Sublist ((passagens u).map (·.2))
  era : ∃! h, Era mostra endereco c tipo t h
  segue : ∀ as, Leitura mostra k q p as → ∀ h, Era mostra endereco c tipo t h →
    ∃ h', as.foldlM (Historia.le tipo c) h = some h' ∧ Era mostra endereco c tipo (t ++ u) h'
  chega : ∀ as, Leitura mostra k q p as → (∃ a ∈ as, a.sobre tipo c ∧ a.delimita) →
    ∃ h', as.foldl (Historia.segue tipo c) none = some h'.aberta ∧
      Era mostra endereco c tipo (t ++ u) h'

theorem Segue.acompanha (spaceless : ∀ x, ' ' ∉ (mostra x).toList)
    (inj : Function.Injective mostra) {nomes : List String}
    (listed : main.lookup endereco = some nomes) (hc : c ∈ nomes) (before : Run mostra t q)
    (run : Run mostra (t ++ u) p) (follows : Segue mostra k endereco c tipo q u p) :
    Acompanha mostra k endereco c tipo t u q p := by
  obtain ⟨as, got, sub, kept⟩ := follows
  have only : ∀ bs, Leitura mostra k q p bs → bs = as := fun bs got' =>
    texts_inj spaceless inj got'.regular got.regular
      (List.append_cancel_left (got'.textos.symm.trans got.textos))
  obtain ⟨h, knew⟩ := exists_era tipo before listed hc
  obtain ⟨h', now⟩ := exists_era tipo run listed hc
  have read : as.foldlM (Historia.le tipo c) h = some h' := by
    rw [Historia.foldlM_sobre, kept, ← Historia.foldlM_sobre]
    rw [passados_append, List.foldlM_append, knew] at now
    exact now
  have era' : Era mostra endereco c tipo (t ++ u) h' := (era_iff run listed hc).2 now
  refine ⟨⟨as, got, only⟩, ?_, ⟨h, (era_iff before listed hc).2 knew, ?_⟩, ?_, ?_⟩
  · intro bs got'
    exact only bs got' ▸ sub
  · intro g hg
    exact Option.some.inj (((era_iff before listed hc).1 hg).symm.trans knew)
  · intro bs got' g hg
    obtain rfl := only bs got'
    obtain rfl := Option.some.inj (((era_iff before listed hc).1 hg).symm.trans knew)
    exact ⟨h', read, era'⟩
  · intro bs got' limit
    obtain rfl := only bs got'
    obtain ⟨x, known⟩ := Option.isSome_iff_exists.1 (Historia.isSome_segue (.inr limit))
    refine ⟨h', ?_, era'⟩
    rw [known, Historia.segue_foldlM (v := none) read (by simp) x known]

/-- A client that asks for a hosted company can follow it. -/
theorem broadcasts (spaceless : ∀ x, ' ' ∉ (mostra x).toList) (inj : Function.Injective mostra)
    {nomes : List String} (listed : main.lookup endereco = some nomes) (hc : c ∈ nomes)
    {empresas : String} (asked : c ∈ (Client.split empresas).take 10)
    (before : Run mostra t q) {q' : Praca R}
    (subscribed : q.Passa mostra (.subscricao k tipo.nome empresas) r q')
    (after : Runs.Run (Passa mostra) q' u p) :
    Acompanha mostra k endereco c tipo t (⟨q, .subscricao k tipo.nome empresas, r, q'⟩ :: u) q
      p := by
  have asks : Run mostra (t ++ [⟨q, .subscricao k tipo.nome empresas, r, q'⟩]) q' :=
    before.snoc subscribed
  have start : Segue mostra k endereco c tipo q
      [⟨q, .subscricao k tipo.nome empresas, r, q'⟩] q' := by
    cases subscribed
    exact ⟨[], ⟨by simp, by simp⟩, by simp, by simp [passados, passagens, passagem]⟩
  have follows : p.Assina mostra k c tipo ∧ Segue mostra k endereco c tipo q
      ([⟨q, .subscricao k tipo.nome empresas, r, q'⟩] ++ u) p := by
    refine Runs.Run.invariant (fun u p => p.Assina mostra k c tipo ∧
      Segue mostra k endereco c tipo q
        ([⟨q, .subscricao k tipo.nome empresas, r, q'⟩] ++ u) p) after ?_ ?_
    · exact ⟨assina_subscricao asked subscribed, start⟩
    · rintro u p ev r' p' run ⟨assina, follows⟩ step
      have boa := Run.boa (asks.append run)
      rw [← List.append_assoc]
      exact ⟨assina.passa step, follows.passa boa assina listed hc step⟩
  have whole : Run mostra (t ++ ([⟨q, .subscricao k tipo.nome empresas, r, q'⟩] ++ u)) p :=
    List.append_assoc t _ u ▸ asks.append after
  exact follows.2.acompanha spaceless inj listed hc before whole

/-! ### A client of `CanecaLda` -/

def ordem : Binary32 → Nat
  | .nan => 0
  | .num false mag => 2 * mag.val + 1
  | .num true mag => 2 * mag.val + 2

theorem ordem_inj : Function.Injective ordem := by
  rintro (_ | ⟨_ | _, x⟩) (_ | ⟨_ | _, y⟩) same <;> simp only [ordem] at same <;>
    simp only [Binary32.num.injEq, Fin.ext_iff, reduceCtorEq, true_and, false_and] <;> omega

/-- As `Float.toString` shows the rates below. -/
def mostraTaxa (x : Binary32) : String :=
  if x = .intBitsToFloat 0x3D4CCCCD then "0.05" else (ordem x).repr

theorem mostraTaxa_spaceless (x : Binary32) : ' ' ∉ (mostraTaxa x).toList := by
  unfold mostraTaxa
  split
  · decide
  · exact Aviso.not_mem_repr (by decide) _

theorem mostraTaxa_inj : Function.Injective mostraTaxa := by
  intro x y same
  have dotted (n : Nat) : "0.05" ≠ n.repr := fun h =>
    Aviso.not_mem_repr (c := '.') (by decide) n (h ▸ by decide)
  unfold mostraTaxa at same
  split at same <;> split at same
  · next hx hy => rw [hx, hy]
  · exact absurd same (dotted _)
  · exact absurd same.symm (dotted _)
  · exact ordem_inj (Aviso.repr_inj same)

/-- An auction begins, and its notice finds nobody. -/
def antes : List (Evento Binary32) :=
  [.exchange "tcp://localhost:4000"
      (.pedido (.em 1) (.leilao "CanecaLda" 1000 (.intBitsToFloat 0x3DCCCCCD))),
    .proxy "tcp://localhost:4000"]

/-- It gets a bid and ends, and there is another one. Its bid still waits. -/
def depois : List (Evento Binary32) :=
  [.exchange "tcp://localhost:4000"
      (.pedido (.em 2) (.licitar "CanecaLda" "ana" 600 (.intBitsToFloat 0x3D4CCCCD))),
    .proxy "tcp://localhost:4000",
    .exchange "tcp://localhost:4000" (.terminaLeilao (.em 3) ⟨"CanecaLda", 0, 0⟩),
    .proxy "tcp://localhost:4000",
    .exchange "tcp://localhost:4000"
      (.pedido (.em 4) (.leilao "CanecaLda" 1000 (.intBitsToFloat 0x3DCCCCCD))),
    .proxy "tcp://localhost:4000",
    .exchange "tcp://localhost:4000"
      (.pedido (.em 5) (.licitar "CanecaLda" "rui" 500 (.intBitsToFloat 0x3D4CCCCD)))]

theorem anuncio_taken : (corrida mostraTaxa (antes.take 1)).isSome := by decide +kernel

theorem anuncio_sent :
    (((corrida mostraTaxa (antes.take 1)).get anuncio_taken).2.exchanges
      "tcp://localhost:4000").any (·.2 == [⟨.leilao, "CanecaLda", .comecou⟩]) := by
  decide +kernel

/-- The notice of a new auction is not for a client that asks for a company named `Caneca`. -/
theorem subscriptions_caneca :
    Client.recebe (Client.Notifier.subscricao "leilao" "OreoLda Caneca")
      ((⟨.leilao, "CanecaLda", .comecou⟩ : Aviso Binary32).texto mostraTaxa) = true ↔
      (Client.split "OreoLda Caneca" = [] ∧ "leilao".toList <+:
        ((⟨.leilao, "CanecaLda", .comecou⟩ : Aviso Binary32).texto mostraTaxa).toList) ∨
        ("leilao" = "leilao" ∧ "CanecaLda" ∈ (Client.split "OreoLda Caneca").take 10) := by
  obtain ⟨e, found, waits⟩ := (Option.any_eq_true _ _).1 anuncio_sent
  exact subscriptions (by decide) (run_corrida anuncio_taken) found
    (by rw [beq_iff_eq.1 waits]; exact List.mem_cons_self)

theorem antes_taken : (corrida mostraTaxa antes).isSome := by decide +kernel

def pedida : Praca Binary32 :=
  let q := ((corrida mostraTaxa antes).get antes_taken).2
  { q with
    subscricoes := Function.update q.subscricoes 1
      (q.subscricoes 1 ++ Client.Notifier.subscricao "leilao" "OreoLda CanecaLda") }

theorem depois_taken : (Runs.exec (proximo mostraTaxa) pedida depois).isSome := by decide +kernel

theorem broadcasts_caneca : ∃ (t u : List (Lance Binary32)) (q p : Praca Binary32),
    p.mailbox 1 = ["leilao-CanecaLda-nova licitação de: ana juro: 0.05 quantia: 600",
      "leilao-CanecaLda-Terminado", "leilao-CanecaLda-Começou um leilão"] ∧
      Acompanha mostraTaxa 1 "tcp://localhost:4000" "CanecaLda" .leilao t u q p := by
  have listed : main.lookup "tcp://localhost:4000" = some ["CanecaLda", "SapatoLda"] := by
    decide +kernel
  have asked : "CanecaLda" ∈ (Client.split "OreoLda CanecaLda").take 10 := by decide +kernel
  exact ⟨_, _, _, ((Runs.exec (proximo mostraTaxa) pedida depois).get depois_taken).2,
    by decide +kernel,
    broadcasts mostraTaxa_spaceless mostraTaxa_inj listed (by decide) asked
      (run_corrida antes_taken) rfl (Runs.run_exec depois_taken)⟩

end Praca

end PeerLanding
