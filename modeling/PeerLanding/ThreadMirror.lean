import PeerLanding.AuctionMirror
import PeerLanding.Serializability

/-! The Directory against the memory of the threads: what holds of the auctions after whole requests
and settlements holds between any two operations that are not about the company. -/

namespace PeerLanding.Threads

open Exchange

variable {R : Type} [JavaFloat R] {c : String} {nomes registadas : List String} {m m' : Memoria R}
  {t : List (Lance R)}

def Passo.finito : Passo R → Bool
  | .recv P => (Exchange.Passo.pedido ⟨.atNano 0, .atNano 0, true⟩ P).finito
  | _ => true

/-- The Directory's view of the auctions of `c` is the exchange's, the open auction last. -/
def Memoria.Espelhada (m : Memoria R) (c : String) : Prop :=
  ∃ empresa registo, m.empresas c = some empresa ∧ m.diretorio c = some registo ∧
    registo.historicoLeiloes.map Directory.Leilao.vista =
      empresa.historicoLeiloes.mapIdx (fun i ref => (m.leilao ref).vista i false) ++
        (m.leiloes c).toList.map fun ref =>
          (m.leilao ref).vista empresa.historicoLeiloes.length true

omit [JavaFloat R] in
theorem Memoria.espelhada_of_quadro {s : Sistema R} (same : m.quadro c = s.quadro c)
    (hosted : s.empresas c ≠ none) (mirror : AuctionMirror (s.ficha c)) : m.Espelhada c := by
  obtain ⟨registo, known, seen⟩ := mirror
  have empresas : s.empresas c = _ := (congrArg (·.empresa) same).symm
  have leiloes : s.leiloes c = (m.leiloes c).map m.leilao := (congrArg (·.leilao) same).symm
  have registos : m.diretorio c = s.diretorio c := congrArg (·.registo) same
  cases he : m.empresas c with
  | none =>
      rw [empresas] at hosted
      simp [Memoria.quadro, he] at hosted
  | some empresa =>
      refine ⟨empresa, registo, he, registos.trans known, ?_⟩
      rw [seen]
      cases aberto : m.leiloes c <;>
        simp [Ficha.vistaLeiloes, Sistema.ficha, empresas, leiloes, Memoria.quadro, he, aberto,
          List.mapIdx_eq_zipIdx_map, List.zipIdx_map]

variable [Gson R]

theorem Memoria.Passa.pedido {agora agoraDiretorio : LocalDateTime} {r : Option Resultado}
    (step : m.Passa (.exchange agora agoraDiretorio) r m') {P : Pedido R}
    (now : m'.exchange.pedido = some P) : m.exchange.pedido = some P := by
  cases before : m.exchange.pedido with
  | some Q =>
      obtain ⟨r', m'', step', _, ends⟩ := exchange_adianta before agora agoraDiretorio
      cases (step.symm.trans step' : some (r, m') = some (r', m''))
      rcases ends with ⟨_, ⟨same, _⟩ | decided⟩ | ⟨_, _, stopped⟩
      · rw [← same, now]
      · cases exch : m'.exchange <;> rw [exch] at now decided <;> cases now <;> cases decided
      · rw [stopped] at now
        cases now
  | none =>
      have goes : m.passa agora agoraDiretorio = some (r, m') := step
      unfold Memoria.passa at goes
      cases exch : m.exchange with
      | recv =>
          rw [exch] at goes
          cases goes
      | aceita _ _ _ =>
          rw [exch] at goes
          cases goes
          cases now
      | recusa =>
          rw [exch] at goes
          cases goes
          cases now
      | fim =>
          rw [exch] at goes
          cases goes
      | _ =>
          rw [exch] at before
          cases before

def PedidosFinitos (t : List (Lance R)) (m : Memoria R) : Prop :=
  (∀ P, m.exchange.pedido = some P → (Passo.recv P).finito = true) ∧
    ∀ P r, Feito.pedido P r ∈ t.filterMap Lance.feito → (Passo.recv P).finito = true

theorem Memoria.Passa.exchange_fio {l : Passo R} {r : Option Resultado} (step : m.Passa l r m')
    (recv : ∀ P, l ≠ .recv P) (exchange : ∀ agora agora', l ≠ .exchange agora agora') :
    m'.exchange = m.exchange := by
  cases step.move with
  | terminaLeilao _ _ op => exact (terminaLeilao_threads op).2.1
  | terminaEmissao _ _ op => exact (terminaEmissao_threads op).2.2.1
  | falhaTerminaLeilao _ _ _ => rfl
  | falhaTerminaEmissao _ _ _ => rfl
  | recv _ => exact absurd rfl (recv _)
  | _ => exact absurd rfl (exchange _ _)

omit [JavaFloat R] [Gson R] in
theorem feito_fio {l : Passo R} {r : Option Resultado} (recv : ∀ P, l ≠ .recv P)
    (exchange : ∀ agora agora', l ≠ .exchange agora agora') (P : Pedido R) (r' : Resultado) :
    Lance.feito ⟨m, l, r, m'⟩ ≠ some (.pedido P r') := by
  intro shown
  cases l with
  | recv P => exact absurd rfl (recv P)
  | exchange agora agora' => exact absurd rfl (exchange agora agora')
  | _ =>
      simp only [Lance.feito] at shown
      split at shown
      · split at shown <;> cases shown
      · cases shown

theorem PedidosFinitos.passa {l : Passo R} {r : Option Resultado} (h : PedidosFinitos t m)
    (step : m.Passa l r m') (finito : l.finito = true) :
    PedidosFinitos (t ++ [⟨m, l, r, m'⟩]) m' := by
  obtain ⟨now, before⟩ := h
  have done (now' : ∀ P, m'.exchange.pedido = some P → (Passo.recv P).finito = true)
      (new : ∀ P r', Lance.feito ⟨m, l, r, m'⟩ = some (.pedido P r') →
        (Passo.recv P).finito = true) : PedidosFinitos (t ++ [⟨m, l, r, m'⟩]) m' := by
    refine ⟨now', fun P r' there => ?_⟩
    rw [Runs.filterMap_concat, List.mem_append, Option.mem_toList] at there
    cases there with
    | inl past => exact before P r' past
    | inr last => exact new P r' last
  have settled (same : m'.exchange = m.exchange)
      (other : ∀ P r', Lance.feito ⟨m, l, r, m'⟩ ≠ some (.pedido P r')) :
      PedidosFinitos (t ++ [⟨m, l, r, m'⟩]) m' :=
    done (same ▸ now) fun P r' shown => absurd shown (other P r')
  cases l with
  | recv P =>
      cases step.move with
      | recv at' =>
          refine done (fun Q at' => ?_) (fun Q r' shown => ?_)
          · cases P <;> cases at' <;> exact finito
          · obtain ⟨_, _, shown⟩ := Option.map_eq_some_iff.1 shown
            cases shown
            exact finito
  | exchange agora agoraDiretorio =>
      refine done (fun P at' => now P (step.pedido at')) (fun P r' shown => ?_)
      simp only [Lance.feito] at shown
      cases at' : m.exchange.pedido with
      | none =>
          rw [at'] at shown
          cases shown
      | some Q =>
          rw [at'] at shown
          obtain ⟨_, _, shown⟩ := Option.map_eq_some_iff.1 shown
          cases shown
          exact now P at'
  | terminaLeilao ref =>
      exact settled (step.exchange_fio (by simp) (by simp)) (feito_fio (by simp) (by simp))
  | terminaEmissao ref =>
      exact settled (step.exchange_fio (by simp) (by simp)) (feito_fio (by simp) (by simp))

theorem Run.pedidosFinitos (run : Run nomes registadas t m)
    (finitas : ∀ e ∈ t, e.label.finito = true) : PedidosFinitos t m := by
  refine Runs.Run.invariant_of_guard PedidosFinitos (fun e => e.label.finito = true) run finitas
    ⟨?_, ?_⟩ ?_
  · intro P at'
    cases at'
  · intro P r there
    cases there
  · intro t m l r m' _ ih step finito
    exact ih.passa step finito

/-- With finite rates and no overlaps within a company, the Directory mirrors the auctions of every
company that both know, whenever nothing about the company is half done. -/
theorem threadMirror (hc : c ∈ nomes) (hd : c ∈ registadas) (run : Run nomes registadas t m)
    (isolado : ∀ e ∈ t, e.pre.Isolado e.label) (finitas : ∀ e ∈ t, e.label.finito = true)
    (parada : m.Parada c) : m.Espelhada c := by
  obtain ⟨v, s, run', delivered, same, ends⟩ := serializa run isolado
  have decided := (Run.pedidosFinitos run finitas).2
  have normal : ∀ e ∈ v, e.label.finito = true ∧ e.label.entregue = true := by
    intro e he
    have done : feito e ∈ t.filterMap Lance.feito := same ▸ List.mem_map_of_mem he
    have sent := delivered e he
    obtain ⟨pre, l, r, post⟩ := e
    cases l with
    | pedido amb P =>
        refine ⟨?_, sent.1⟩
        have finito := decided P r done
        cases P <;> exact finito
    | terminaLeilao amb thread => exact ⟨rfl, sent.1⟩
    | terminaEmissao amb thread => exact ⟨rfl, sent.1⟩
  refine Memoria.espelhada_of_quadro (ends.quadro parada) ?_ ?_
  · exact Option.isSome_iff_ne_none.1 (run'.hospeda hc)
  · refine (run'.percurso hc).mirrored hd fun e he => ?_
    obtain ⟨e', he', rfl⟩ := List.mem_map.1 he
    exact ⟨(normal e' he').1, fun _ => (normal e' he').2⟩

theorem threadMirror_doisFios : ∃ (t : List (Lance Binary32)) (m : Memoria Binary32),
    Run ["CanecaLda", "SapatoLda"] Directory.nomes t m ∧
      m.empresas "CanecaLda" = some ⟨[0], []⟩ ∧ m.Espelhada "CanecaLda" :=
  ⟨_, _, Memoria.run_corrida doisFios_taken, by decide +kernel,
    threadMirror (by decide) (by decide) (Memoria.run_corrida doisFios_taken) (by decide +kernel)
      (by decide +kernel) (by decide +kernel)⟩

end PeerLanding.Threads
