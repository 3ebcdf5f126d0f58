import PeerLanding.Parts

/-! Where a request stands between two of its operations, when no settlement of the company is
half done. `q` is the company before the request: each outline says how far the memory has gone from
`q` to what the request as a whole makes of it. -/

namespace PeerLanding.Threads

open Exchange

variable {R : Type}

def Ponto.pedido : Ponto R → Option (Pedido R)
  | .licitar empresa investidor quantia juro _ => some (.licitar empresa investidor quantia juro)
  | .emprestimo empresa investidor quantia _ => some (.emprestimo empresa investidor quantia)
  | .emissao empresa quantia _ => some (.emissao empresa quantia)
  | .leilao empresa quantia juro _ => some (.leilao empresa quantia juro)
  | _ => none

/-- The answer that has been decided and not yet sent. -/
def Ponto.decisao : Ponto R → Option Resultado
  | .aceita _ _ _ => some (.resposta true)
  | .recusa => some (.resposta false)
  | _ => none

/-- The references that the request in progress has taken. -/
def Ponto.criados : Ponto R → Nat
  | .emissao _ _ (.thread _ _ _) => 1
  | .emissao _ _ (.post _ _ _) => 1
  | .leilao _ _ _ .get => 0
  | .leilao _ _ _ .put => 0
  | .leilao _ _ _ _ => 1
  | _ => 0

variable [JavaFloat R]

/-! ### Outlines -/

section Esbocos

variable (K : LocalDateTime → Prop) (c investidor : String) (quantia : Int32) (juro : R) (n : Nat)
  (p : Parte R) (q : Quadro R)

/-- The bid is in the open auction, and that is all. -/
structure Licitada (ref : Nat) (leilao : Leilao R) : Prop where
  aberto : q.leilao = some leilao
  aceita : leilao.Aceita quantia juro
  atual : p.leilaoAtual = some ref
  fiel : p.Fiel c { q with leilao := some (leilao.comLicitacao ⟨investidor, juro, quantia⟩) }

def EmLicitar.Esboco : EmLicitar → Prop
  | .get => p.Fiel c q
  | .add ref => p.Fiel c q ∧ p.leilaoAtual = some ref ∧
      ∃ leilao, q.leilao = some leilao ∧ leilao.Aceita quantia juro
  | .empresa ref => ∃ leilao, Licitada c investidor quantia juro p q ref leilao
  | .historico ref => ∃ leilao, Licitada c investidor quantia juro p q ref leilao
  | .size ref idL => ∃ leilao empresa, Licitada c investidor quantia juro p q ref leilao ∧
      q.empresa = some empresa ∧ idL = empresa.historicoLeiloes.length
  | .post ref idL id => ∃ leilao empresa, Licitada c investidor quantia juro p q ref leilao ∧
      q.empresa = some empresa ∧ idL = empresa.historicoLeiloes.length ∧
      id = leilao.licitacoes.length

structure Emprestada (ref : Nat) (emissao : Emissao R) : Prop where
  aberta : q.emissao = some emissao
  multiplo : quantia % 100 = 0
  atual : p.emissaoAtual = some ref
  fiel : p.Fiel c { q with emissao := some (emissao.comLicitacao (.semTaxa investidor quantia)) }

def EmEmprestimo.Esboco : EmEmprestimo → Prop
  | .get => p.Fiel c q
  | .add ref => p.Fiel c q ∧ p.emissaoAtual = some ref ∧ quantia % 100 = 0
  | .empresa ref => ∃ emissao, Emprestada c investidor quantia p q ref emissao
  | .historico ref => ∃ emissao, Emprestada c investidor quantia p q ref emissao
  | .size ref idL => ∃ emissao empresa, Emprestada c investidor quantia p q ref emissao ∧
      q.empresa = some empresa ∧ idL = empresa.historicoEmissoes.length
  | .post ref idL id => ∃ emissao empresa, Emprestada c investidor quantia p q ref emissao ∧
      q.empresa = some empresa ∧ idL = empresa.historicoEmissoes.length ∧
      id = emissao.licitacoes.length

/-- What `taxaEmissao` has found out of the company `e`. -/
def EmTaxa.Esboco (e : Exchange.Empresa R) : EmTaxa → Prop
  | .lastLeilao => True
  | .size ref => ∃ leilao, p.leilao ref = some leilao ∧
      e.historicoLeiloes.getLast? = some leilao
  | .lastEmissao ref => (∃ leilao, p.leilao ref = some leilao ∧
      e.historicoLeiloes.getLast? = some leilao) ∧ e.historicoEmissoes ≠ []
  | .sucesso ref ref' => (∃ leilao, p.leilao ref = some leilao ∧
      e.historicoLeiloes.getLast? = some leilao) ∧
      ∃ emissao, p.emissao ref' = some emissao ∧ e.historicoEmissoes.getLast? = some emissao
  | .insucesso ref => ∃ emissao, p.emissao ref = some emissao ∧ emissao.sucesso = false ∧
      e.taxaEmissao = .ok (JavaFloat.mul110 emissao.taxa)
  | .maxima ref => ∃ leilao, p.leilao ref = some leilao ∧
      e.taxaEmissao = .ok leilao.getTaxaLicitacaoMaxima

def Emite (taxa : R) (empresa : Exchange.Empresa R) : Prop :=
  q.empresa = some empresa ∧ empresa.PodeEmitir quantia ∧ empresa.taxaEmissao = .ok taxa

def EmEmissao.Esboco : EmEmissao R → Prop
  | .get => p.Fiel c q
  | .size => p.Fiel c q ∧ p.empresa ≠ none
  | .lastElement => p.Fiel c q ∧ ∃ e, p.empresa = some e ∧ e.historicoLeiloes ≠ []
  | .taxa em => p.Fiel c q ∧
      ∃ empresa, q.empresa = some empresa ∧ empresa.PodeEmitir quantia ∧ em.Esboco p empresa
  | .empresa taxaMaxima => p.Fiel c q ∧ ∃ empresa, Emite quantia q taxaMaxima empresa
  | .historico taxaMaxima => p.Fiel c q ∧ ∃ empresa, Emite quantia q taxaMaxima empresa
  | .put taxaMaxima idL => p.Fiel c q ∧
      ∃ empresa, Emite quantia q taxaMaxima empresa ∧ idL = empresa.historicoEmissoes.length
  | .thread taxaMaxima idL ref => ∃ agora empresa, K agora ∧ Emite quantia q taxaMaxima empresa ∧
      idL = empresa.historicoEmissoes.length ∧ ref = n ∧ p.emissaoAtual = some ref ∧
      p.fioEmissao ref = none ∧
      p.Fiel c { q with emissao := some (.novo n taxaMaxima quantia c agora) }
  | .post taxaMaxima idL ref => ∃ agora empresa, K agora ∧ Emite quantia q taxaMaxima empresa ∧
      idL = empresa.historicoEmissoes.length ∧ ref = n ∧
      p.Fiel c { q with
        emissao := some (.novo n taxaMaxima quantia c agora)
        terminaEmissoes := insert ⟨c, idL, n⟩ q.terminaEmissoes }

/-- The auction is open, and that is all. -/
structure Aberta (ref : Nat) (agora : LocalDateTime) : Prop where
  relogio : K agora
  livre : q.leilao = none
  multiplo : quantia % 1000 = 0
  nova : ref = n
  atual : p.leilaoAtual = some ref
  semFio : p.fioLeilao ref = none
  fiel : p.Fiel c { q with leilao := some (.novo n juro quantia c agora) }

def EmLeilao.Esboco : EmLeilao → Prop
  | .get => p.Fiel c q
  | .put => p.Fiel c q ∧ q.leilao = none ∧ quantia % 1000 = 0
  | .empresa ref => ∃ agora, Aberta K c quantia juro n p q ref agora
  | .historico ref => ∃ agora, Aberta K c quantia juro n p q ref agora
  | .thread ref idL => ∃ agora empresa, Aberta K c quantia juro n p q ref agora ∧
      q.empresa = some empresa ∧ idL = empresa.historicoLeiloes.length
  | .post ref idL => ∃ agora empresa, K agora ∧ q.leilao = none ∧ quantia % 1000 = 0 ∧ ref = n ∧
      q.empresa = some empresa ∧ idL = empresa.historicoLeiloes.length ∧
      p.Fiel c { q with
        leilao := some (.novo n juro quantia c agora)
        terminaLeiloes := insert ⟨c, idL, n⟩ q.terminaLeiloes }

/-- The outline of the request in progress, which is about `c`. -/
def Ponto.Esboco : Ponto R → Prop
  | .licitar empresa investidor quantia juro em =>
      empresa = c ∧ em.Esboco c investidor quantia juro p q
  | .emprestimo empresa investidor quantia em => empresa = c ∧ em.Esboco c investidor quantia p q
  | .emissao empresa quantia em => empresa = c ∧ em.Esboco K c quantia n p q
  | .leilao empresa quantia juro em => empresa = c ∧ em.Esboco K c quantia juro n p q
  | _ => False

/-- The memory is where the whole request `P` would have left it, with `r` as its end. -/
def Decidido (agoraDiretorio : LocalDateTime) (P : Pedido R) (r : Resultado) (novaRef : Nat) :
    Prop :=
  ∃ agora, K agora ∧ (q.apos agora agoraDiretorio n P).resultado = r ∧
    p.Fiel c (q.apos agora agoraDiretorio n P).quadro ∧
    novaRef = (q.apos agora agoraDiretorio n P).novaRef

end Esbocos

/-- What one more operation of the request `P` about `c` leads to. -/
inductive Adiante (K : LocalDateTime → Prop) (c : String) (agoraDiretorio : LocalDateTime) (n : Nat)
    (q : Quadro R) (P : Pedido R) (dono : Nat → Option String) (m : Memoria R) : Prop
  | curso (mesmo : m.exchange.pedido = some P) (refs : m.novaRef = n + m.exchange.criados)
      (esboco : m.exchange.Esboco K c n (m.parte dono c) q)
  | decidiu {r : Resultado} (resposta : m.exchange.decisao = some r)
      (decidido : Decidido K c n (m.parte dono c) q agoraDiretorio P r m.novaRef)

variable [Gson R] {K : LocalDateTime → Prop} {c investidor : String} {quantia : Int32} {juro : R}
  {n : Nat} {q : Quadro R} {dono : Nat → Option String} {m m' : Memoria R}
  {agora agoraDiretorio : LocalDateTime} {e : Excecao}

section Falhas

variable {α β ε : Type}

theorem error_of_bind {x : Except ε α} {f : α → Except ε β} {e : ε} (h : x >>= f = .error e) :
    x = .error e ∨ ∃ a, x = .ok a ∧ f a = .error e := by
  cases x with
  | error e' =>
      cases h
      exact .inl rfl
  | ok a => exact .inr ⟨a, rfl, h⟩

theorem error_of_bind_pure {x : Except ε α} {f : α → β} {e : ε}
    (h : (x >>= fun a => pure (f a)) = .error e) : x = .error e := by
  rcases error_of_bind h with first | ⟨a, _, rest⟩
  · exact first
  · cases rest

omit [JavaFloat R] [Gson R] in
theorem empresaDe_eq_error : m.empresaDe c = .error e ↔ m.empresas c = none ∧ e = .nullPointer := by
  unfold Memoria.empresaDe
  cases m.empresas c <;> simp [eq_comm]

theorem toJson_eq_error {rr : RestRequest R} :
    toJson rr = .error e ↔ rr.finito = false ∧ e = .illegalArgument := by
  unfold toJson
  cases finito : rr.finito with
  | true => simp [Gson.toJson_finito rr finito, Except.map]
  | false => simp [Gson.toJson_especial rr finito, Except.map, eq_comm]

end Falhas

omit [Gson R] in
theorem decidido_of {p : Parte R} {P : Pedido R} {novaRef : Nat} (relogio : K agora)
    {d : Desfecho R} (ends : q.apos agora agoraDiretorio n P = d) (fiel : p.Fiel c d.quadro)
    (refs : novaRef = d.novaRef) : Decidido K c n p q agoraDiretorio P d.resultado novaRef := by
  subst ends
  exact ⟨agora, relogio, rfl, fiel, refs⟩

section Licitar

variable {em : EmLicitar} {p : Parte R} {ref : Nat} {leilao : Leilao R}
  {empresa : Exchange.Empresa R}

omit [Gson R] in
theorem Licitada.nula (bid : Licitada c investidor quantia juro p q ref leilao)
    (seen : q.empresa = none) :
    q.apos agora agoraDiretorio n (.licitar c investidor quantia juro) =
      ⟨.excecao .nullPointer,
        { q with leilao := some (leilao.comLicitacao ⟨investidor, juro, quantia⟩) }, n⟩ := by
  simp [Quadro.apos, Quadro.aposLicitar, bid.aberto, bid.aceita, seen]

omit [Gson R] in
theorem Licitada.especial (bid : Licitada c investidor quantia juro p q ref leilao)
    (seen : q.empresa = some empresa) (especial : JavaFloat.isFinite juro = false) :
    q.apos agora agoraDiretorio n (.licitar c investidor quantia juro) =
      ⟨.excecao .illegalArgument,
        { q with leilao := some (leilao.comLicitacao ⟨investidor, juro, quantia⟩) }, n⟩ := by
  simp [Quadro.apos, Quadro.aposLicitar, bid.aberto, bid.aceita, seen, especial]

omit [Gson R] in
theorem Licitada.reportada (bid : Licitada c investidor quantia juro p q ref leilao)
    (seen : q.empresa = some empresa) (finito : JavaFloat.isFinite juro = true) :
    q.apos agora agoraDiretorio n (.licitar c investidor quantia juro) =
      ⟨.resposta true, Quadro.relata
        { q with leilao := some (leilao.comLicitacao ⟨investidor, juro, quantia⟩) }
        fun registo => registo.noLeilao empresa.historicoLeiloes.length (Directory.Leilao.recebe
          ⟨leilao.licitacoes.length, investidor, juro, quantia⟩), n⟩ := by
  simp [Quadro.apos, Quadro.aposLicitar, bid.aberto, bid.aceita, seen, finito]

theorem licitar_segue (g : m.Guardada dono) (relogio : K agora) (refs : m.novaRef = n)
    (h : em.Esboco c investidor quantia juro (m.parte dono c) q)
    (op : licitar c investidor quantia juro m em = .ok m') :
    m.So c dono dono m' ∧
      Adiante K c agoraDiretorio n q (.licitar c investidor quantia juro) dono m' := by
  cases em with
  | get =>
      simp only [licitar] at op
      split at op
      · next ref atual =>
          have here : (m.parte dono c).leilao ref = q.leilao := h.leilao atual
          obtain ⟨leilao, there⟩ := Option.isSome_iff_exists.1 (h.arrumada.leilaoAtual ref atual)
          have read : m.leilao ref = leilao := (Memoria.parte_leilao_eq.1 there).2
          split at op
          · next test =>
              cases op
              rw [read, Bool.and_eq_true, beq_iff_eq] at test
              refine ⟨g.so_em _, .curso rfl refs ⟨rfl, h, atual, leilao, ?_, test⟩⟩
              rw [← here, there]
          · next test =>
              cases op
              rw [read, Bool.and_eq_true, beq_iff_eq] at test
              have open' : q.leilao = some leilao := by rw [← here, there]
              have reject : ¬leilao.Aceita quantia juro := test
              have ends : q.apos agora agoraDiretorio n (.licitar c investidor quantia juro) =
                  ⟨.resposta false, q, n⟩ := by
                simp [Quadro.apos, Quadro.aposLicitar, open', reject]
              exact ⟨g.so_em _, .decidiu rfl (decidido_of relogio ends h refs)⟩
      · next atual =>
          cases op
          have closed : q.leilao = none := h.leilaoAtual.1 atual
          have ends : q.apos agora agoraDiretorio n (.licitar c investidor quantia juro) =
              ⟨.resposta false, q, n⟩ := by
            simp [Quadro.apos, Quadro.aposLicitar, closed]
          exact ⟨g.so_em _, .decidiu rfl (decidido_of relogio ends h refs)⟩
  | add ref =>
      obtain ⟨fiel, atual, leilao, open', accepts⟩ := h
      have there : (m.parte dono c).leilao ref = some leilao := (fiel.leilao atual).trans open'
      obtain ⟨dela, read⟩ := Memoria.parte_leilao_eq.1 there
      cases op
      refine ⟨(g.so_leilao dela _).trans ((g.so_leilao dela _).guardada.so_em _),
        .curso rfl refs ⟨rfl, leilao, open', accepts, atual, ?_⟩⟩
      have changed := fiel.muda_leilao atual (leilao.comLicitacao ⟨investidor, juro, quantia⟩)
      rw [← Memoria.parte_leilao dela] at changed
      rw [read]
      exact changed
  | empresa ref =>
      obtain ⟨_, _, op⟩ := ok_of_bind op
      cases op
      exact ⟨g.so_em _, .curso rfl refs ⟨rfl, h⟩⟩
  | historico ref =>
      obtain ⟨empresaObj, found, op⟩ := ok_of_bind op
      cases op
      rw [empresaDe_eq_ok] at found
      obtain ⟨leilao, bid⟩ := h
      have seen := bid.fiel.empresa found
      refine ⟨g.so_em _, .curso rfl refs ⟨rfl, leilao, _, bid, seen, ?_⟩⟩
      exact (Parte.length_filterMap (bid.fiel.arrumada.historicoLeiloes _ found)).symm
  | size ref idL =>
      obtain ⟨leilao, empresa, bid, seen, number⟩ := h
      cases op
      refine ⟨g.so_em _, .curso rfl refs ⟨rfl, leilao, empresa, bid, seen, number, ?_⟩⟩
      have there := bid.fiel.leilao bid.atual
      rw [(Memoria.parte_leilao_eq.1 there).2]
      simp
  | post ref idL id =>
      obtain ⟨leilao, empresa, bid, seen, rfl, rfl⟩ := h
      obtain ⟨data, found, op⟩ := ok_of_bind op
      cases op
      obtain ⟨finito, rfl⟩ := toJson_eq_ok.1 found
      rw [RestRequest.finito_licitacao] at finito
      have call := Directory.after_postLeilaoLicitacao (d := m.diretorio)
        (n := empresa.historicoLeiloes.length) (rfl : (RestRequest.licitacao c _
          leilao.licitacoes.length investidor juro quantia).recebido.nome = some c) rfl
      obtain ⟨so, told⟩ := g.reporta bid.fiel call
      exact ⟨so.trans (so.guardada.so_em _),
        .decidiu rfl (decidido_of relogio (bid.reportada seen finito) told refs)⟩

theorem licitar_falha (relogio : K agora) (refs : m.novaRef = n)
    (h : em.Esboco c investidor quantia juro (m.parte dono c) q)
    (op : licitar c investidor quantia juro m em = .error e) :
    Decidido K c n (m.parte dono c) q agoraDiretorio (.licitar c investidor quantia juro)
      (.excecao e) m.novaRef := by
  have unknown {leilao : Leilao R} {ref : Nat}
      (bid : Licitada c investidor quantia juro (m.parte dono c) q ref leilao)
      (failed : m.empresaDe c = .error e) :
      Decidido K c n (m.parte dono c) q agoraDiretorio (.licitar c investidor quantia juro)
        (.excecao e) m.novaRef := by
    obtain ⟨missing, rfl⟩ := empresaDe_eq_error.1 failed
    have seen := bid.fiel.empresa_none missing
    exact decidido_of relogio (bid.nula seen) bid.fiel refs
  cases em with
  | get =>
      simp only [licitar] at op
      split at op
      · split at op <;> cases op
      · cases op
  | add ref => cases op
  | empresa ref =>
      obtain ⟨leilao, bid⟩ := h
      exact unknown bid (error_of_bind_pure op)
  | historico ref =>
      obtain ⟨leilao, bid⟩ := h
      exact unknown bid (error_of_bind_pure op)
  | size ref idL => cases op
  | post ref idL id =>
      obtain ⟨leilao, empresa, bid, seen, rfl, rfl⟩ := h
      obtain ⟨especial, rfl⟩ := toJson_eq_error.1 (error_of_bind_pure op)
      rw [RestRequest.finito_licitacao] at especial
      exact decidido_of relogio (bid.especial seen especial) bid.fiel refs

end Licitar

section Emprestimo

variable {em : EmEmprestimo} {p : Parte R} {ref : Nat} {emissao : Emissao R}
  {empresa : Exchange.Empresa R}

omit [Gson R] in
theorem Emprestada.nula (bid : Emprestada c investidor quantia p q ref emissao)
    (seen : q.empresa = none) :
    q.apos agora agoraDiretorio n (.emprestimo c investidor quantia) =
      ⟨.excecao .nullPointer,
        { q with emissao := some (emissao.comLicitacao (.semTaxa investidor quantia)) }, n⟩ := by
  simp [Quadro.apos, Quadro.aposEmprestimo, bid.aberta, bid.multiplo, seen]

omit [Gson R] in
theorem Emprestada.reportada (bid : Emprestada c investidor quantia p q ref emissao)
    (seen : q.empresa = some empresa) :
    q.apos agora agoraDiretorio n (.emprestimo c investidor quantia) =
      ⟨.resposta true, Quadro.relata
        { q with emissao := some (emissao.comLicitacao (.semTaxa investidor quantia)) }
        fun registo => registo.naEmissao empresa.historicoEmissoes.length (Directory.Emissao.recebe
          ⟨emissao.licitacoes.length, investidor, JavaFloat.zero, quantia⟩), n⟩ := by
  simp [Quadro.apos, Quadro.aposEmprestimo, bid.aberta, bid.multiplo, seen]

theorem emprestimo_segue (g : m.Guardada dono) (relogio : K agora) (refs : m.novaRef = n)
    (h : em.Esboco c investidor quantia (m.parte dono c) q)
    (op : emprestimo c investidor quantia m em = .ok m') :
    m.So c dono dono m' ∧
      Adiante K c agoraDiretorio n q (.emprestimo c investidor quantia) dono m' := by
  cases em with
  | get =>
      simp only [emprestimo] at op
      split at op
      · next ref atual =>
          have here : (m.parte dono c).emissao ref = q.emissao := h.emissao atual
          split at op
          · next test =>
              cases op
              exact ⟨g.so_em _, .curso rfl refs ⟨rfl, h, atual, by simpa using test⟩⟩
          · next test =>
              cases op
              have reject : quantia % 100 ≠ 0 := by simpa using test
              have ends : q.apos agora agoraDiretorio n (.emprestimo c investidor quantia) =
                  ⟨.resposta false, q, n⟩ := by
                simp only [Quadro.apos, Quadro.aposEmprestimo, reject, if_false]
                cases q.emissao <;> rfl
              exact ⟨g.so_em _, .decidiu rfl (decidido_of relogio ends h refs)⟩
      · next atual =>
          cases op
          have closed : q.emissao = none := h.emissaoAtual.1 atual
          have ends : q.apos agora agoraDiretorio n (.emprestimo c investidor quantia) =
              ⟨.resposta false, q, n⟩ := by
            simp [Quadro.apos, Quadro.aposEmprestimo, closed]
          exact ⟨g.so_em _, .decidiu rfl (decidido_of relogio ends h refs)⟩
  | add ref =>
      obtain ⟨fiel, atual, multiplo⟩ := h
      obtain ⟨emissao, there⟩ :=
        Option.isSome_iff_exists.1 (fiel.arrumada.emissaoAtual ref atual)
      have open' : q.emissao = some emissao := (fiel.emissao atual).symm.trans there
      obtain ⟨dela, read⟩ := Memoria.parte_emissao_eq.1 there
      cases op
      refine ⟨(g.so_emissao dela _).trans ((g.so_emissao dela _).guardada.so_em _),
        .curso rfl refs ⟨rfl, emissao, open', multiplo, atual, ?_⟩⟩
      have changed := fiel.muda_emissao atual (emissao.comLicitacao (.semTaxa investidor quantia))
      rw [← Memoria.parte_emissao dela] at changed
      rw [read]
      exact changed
  | empresa ref =>
      obtain ⟨_, _, op⟩ := ok_of_bind op
      cases op
      exact ⟨g.so_em _, .curso rfl refs ⟨rfl, h⟩⟩
  | historico ref =>
      obtain ⟨empresaObj, found, op⟩ := ok_of_bind op
      cases op
      rw [empresaDe_eq_ok] at found
      obtain ⟨emissao, bid⟩ := h
      have seen := bid.fiel.empresa found
      refine ⟨g.so_em _, .curso rfl refs ⟨rfl, emissao, _, bid, seen, ?_⟩⟩
      exact (Parte.length_filterMap (bid.fiel.arrumada.historicoEmissoes _ found)).symm
  | size ref idL =>
      obtain ⟨emissao, empresa, bid, seen, number⟩ := h
      cases op
      refine ⟨g.so_em _, .curso rfl refs ⟨rfl, emissao, empresa, bid, seen, number, ?_⟩⟩
      have there := bid.fiel.emissao bid.atual
      rw [(Memoria.parte_emissao_eq.1 there).2]
      simp
  | post ref idL id =>
      obtain ⟨emissao, empresa, bid, seen, rfl, rfl⟩ := h
      obtain ⟨data, found, op⟩ := ok_of_bind op
      cases op
      obtain ⟨-, rfl⟩ := toJson_eq_ok.1 found
      have call := Directory.after_postEmissaoLicitacao (d := m.diretorio)
        (n := empresa.historicoEmissoes.length) (rfl : (RestRequest.emprestimo c _
          emissao.licitacoes.length investidor quantia).recebido.nome = some c) rfl
      obtain ⟨so, told⟩ := g.reporta bid.fiel call
      exact ⟨so.trans (so.guardada.so_em _),
        .decidiu rfl (decidido_of relogio (bid.reportada seen) told refs)⟩

theorem emprestimo_falha (relogio : K agora) (refs : m.novaRef = n)
    (h : em.Esboco c investidor quantia (m.parte dono c) q)
    (op : emprestimo c investidor quantia m em = .error e) :
    Decidido K c n (m.parte dono c) q agoraDiretorio (.emprestimo c investidor quantia)
      (.excecao e) m.novaRef := by
  have unknown {emissao : Emissao R} {ref : Nat}
      (bid : Emprestada c investidor quantia (m.parte dono c) q ref emissao)
      (failed : m.empresaDe c = .error e) :
      Decidido K c n (m.parte dono c) q agoraDiretorio (.emprestimo c investidor quantia)
        (.excecao e) m.novaRef := by
    obtain ⟨missing, rfl⟩ := empresaDe_eq_error.1 failed
    exact decidido_of relogio (bid.nula (bid.fiel.empresa_none missing)) bid.fiel refs
  cases em with
  | get =>
      simp only [emprestimo] at op
      split at op
      · split at op <;> cases op
      · cases op
  | add ref => cases op
  | empresa ref =>
      obtain ⟨emissao, bid⟩ := h
      exact unknown bid (error_of_bind_pure op)
  | historico ref =>
      obtain ⟨emissao, bid⟩ := h
      exact unknown bid (error_of_bind_pure op)
  | size ref idL => cases op
  | post ref idL id =>
      have especial := (toJson_eq_error.1 (error_of_bind_pure op)).1
      rw [RestRequest.finito_emprestimo] at especial
      cases especial

end Emprestimo

section Leilao

variable {em : EmLeilao} {p : Parte R} {ref : Nat} {empresa : Exchange.Empresa R}

omit [Gson R] in
theorem Aberta.nula (h : Aberta K c quantia juro n p q ref agora) (seen : q.empresa = none) :
    q.apos agora agoraDiretorio n (.leilao c quantia juro) =
      ⟨.excecao .nullPointer, { q with leilao := some (.novo n juro quantia c agora) },
        n + 1⟩ := by
  simp [Quadro.apos, Quadro.aposLeilao, h.livre, h.multiplo, seen]

omit [Gson R] in
theorem apos_leilao_especial (livre : q.leilao = none) (multiplo : quantia % 1000 = 0)
    (seen : q.empresa = some empresa) (especial : JavaFloat.isFinite juro = false) :
    q.apos agora agoraDiretorio n (.leilao c quantia juro) =
      ⟨.excecao .illegalArgument, { q with
        leilao := some (.novo n juro quantia c agora)
        terminaLeiloes := insert ⟨c, empresa.historicoLeiloes.length, n⟩ q.terminaLeiloes },
        n + 1⟩ := by
  simp [Quadro.apos, Quadro.aposLeilao, livre, multiplo, seen, especial]

omit [Gson R] in
theorem apos_leilao_aberto (livre : q.leilao = none) (multiplo : quantia % 1000 = 0)
    (seen : q.empresa = some empresa) (finito : JavaFloat.isFinite juro = true) :
    q.apos agora agoraDiretorio n (.leilao c quantia juro) =
      ⟨.resposta true, Quadro.relata { q with
        leilao := some (.novo n juro quantia c agora)
        terminaLeiloes := insert ⟨c, empresa.historicoLeiloes.length, n⟩ q.terminaLeiloes }
        fun registo => registo.addLeilao empresa.historicoLeiloes.length JavaFloat.zero quantia
          agoraDiretorio false, n + 1⟩ := by
  simp [Quadro.apos, Quadro.aposLeilao, livre, multiplo, seen, finito]

theorem leilao_segue (g : m.Guardada dono) (relogio : K agora)
    (refs : m.novaRef = n + (Ponto.leilao c quantia juro em).criados)
    (h : em.Esboco K c quantia juro n (m.parte dono c) q)
    (op : leilao c quantia juro agora agoraDiretorio m em = .ok m') :
    ∃ dono', m.So c dono dono' m' ∧
      Adiante K c agoraDiretorio n q (.leilao c quantia juro) dono' m' := by
  cases em with
  | get =>
      refine ⟨dono, ?_⟩
      simp only [leilao] at op
      split at op
      · next atual =>
          have livre : q.leilao = none := h.leilaoAtual.1 atual
          split at op
          · next test =>
              cases op
              exact ⟨g.so_em _, .curso rfl refs ⟨rfl, h, livre, by simpa using test⟩⟩
          · next test =>
              cases op
              have reject : quantia % 1000 ≠ 0 := by simpa using test
              have ends : q.apos agora agoraDiretorio n (.leilao c quantia juro) =
                  ⟨.resposta false, q, n⟩ := by
                simp [Quadro.apos, Quadro.aposLeilao, reject]
              exact ⟨g.so_em _, .decidiu rfl (decidido_of relogio ends h refs)⟩
      · next ref atual =>
          cases op
          have taken : q.leilao ≠ none := by
            intro free
            have closed : m.leiloes c = none := h.leilaoAtual.2 free
            rw [atual] at closed
            cases closed
          have ends : q.apos agora agoraDiretorio n (.leilao c quantia juro) =
              ⟨.resposta false, q, n⟩ := by
            simp [Quadro.apos, Quadro.aposLeilao, taken]
          exact ⟨g.so_em _, .decidiu rfl (decidido_of relogio ends h refs)⟩
  | put =>
      obtain ⟨fiel, livre, multiplo⟩ := h
      have first : m.novaRef = n := refs
      obtain ⟨so, opened, semFio⟩ := g.abre_leilao fiel (.novo m.novaRef juro quantia c agora)
      cases op
      refine ⟨_, so.trans (so.guardada.so_em _), .curso rfl (congrArg (· + 1) first)
        ⟨rfl, agora, ?_⟩⟩
      refine ⟨relogio, livre, multiplo, first, ?_, semFio, ?_⟩
      · exact Function.update_self ..
      · rw [first] at opened
        rw [first]
        exact opened
  | empresa ref =>
      obtain ⟨_, _, op⟩ := ok_of_bind op
      cases op
      exact ⟨dono, g.so_em _, .curso rfl refs ⟨rfl, h⟩⟩
  | historico ref =>
      obtain ⟨empresaObj, found, op⟩ := ok_of_bind op
      cases op
      rw [empresaDe_eq_ok] at found
      obtain ⟨agora', opened⟩ := h
      have seen := opened.fiel.empresa found
      refine ⟨dono, g.so_em _, .curso rfl refs ⟨rfl, agora', _, opened, seen, ?_⟩⟩
      exact (Parte.length_filterMap (opened.fiel.arrumada.historicoLeiloes _ found)).symm
  | thread ref idL =>
      obtain ⟨agora', empresa, opened, seen, number⟩ := h
      obtain ⟨x, there⟩ :=
        Option.isSome_iff_exists.1 (opened.fiel.arrumada.leilaoAtual ref opened.atual)
      have dela := (Memoria.parte_leilao_eq.1 there).1
      cases op
      have so := g.so_terminaLeilao dela idL .remove
      refine ⟨dono, so.trans (so.guardada.so_em _), .curso rfl refs
        ⟨rfl, agora', empresa, opened.relogio, opened.livre, opened.multiplo, opened.nova, seen,
          number, ?_⟩⟩
      have started := opened.fiel.inicia_leilao opened.semFio idL
      rw [← Memoria.parte_terminaLeiloes dela, opened.nova] at started
      rw [opened.nova]
      exact started
  | post ref idL =>
      obtain ⟨agora', empresa, relogio', livre, multiplo, nova, seen, rfl, fiel⟩ := h
      obtain ⟨data, found, op⟩ := ok_of_bind op
      cases op
      obtain ⟨finito, rfl⟩ := toJson_eq_ok.1 found
      rw [RestRequest.finito_abertura] at finito
      obtain ⟨so, told⟩ := g.reporta fiel (Directory.after_naEmpresa c _ _)
      exact ⟨dono, so.trans (so.guardada.so_em _), .decidiu rfl
        (decidido_of relogio' (apos_leilao_aberto livre multiplo seen finito) told refs)⟩

theorem leilao_falha
    (refs : m.novaRef = n + (Ponto.leilao c quantia juro em).criados)
    (h : em.Esboco K c quantia juro n (m.parte dono c) q)
    (op : leilao c quantia juro agora agoraDiretorio m em = .error e) :
    Decidido K c n (m.parte dono c) q agoraDiretorio (.leilao c quantia juro) (.excecao e)
      m.novaRef := by
  have unknown {ref : Nat} (refs : m.novaRef = n + 1)
      (opened : ∃ agora, Aberta K c quantia juro n (m.parte dono c) q ref agora)
      (failed : m.empresaDe c = .error e) :
      Decidido K c n (m.parte dono c) q agoraDiretorio (.leilao c quantia juro) (.excecao e)
        m.novaRef := by
    obtain ⟨agora', opened⟩ := opened
    obtain ⟨missing, rfl⟩ := empresaDe_eq_error.1 failed
    exact decidido_of opened.relogio (opened.nula (opened.fiel.empresa_none missing))
      opened.fiel refs
  cases em with
  | get =>
      simp only [leilao] at op
      split at op
      · split at op <;> cases op
      · cases op
  | put => cases op
  | empresa ref => exact unknown refs h (error_of_bind_pure op)
  | historico ref => exact unknown refs h (error_of_bind_pure op)
  | thread ref idL => cases op
  | post ref idL =>
      obtain ⟨agora', empresa, relogio', livre, multiplo, nova, seen, rfl, fiel⟩ := h
      obtain ⟨especial, rfl⟩ := toJson_eq_error.1 (error_of_bind_pure op)
      rw [RestRequest.finito_abertura] at especial
      exact decidido_of relogio' (apos_leilao_especial livre multiplo seen especial) fiel refs

end Leilao

section Emissao

variable {p : Parte R} {empresa : Exchange.Empresa R} {taxaMaxima : R}

omit [Gson R] in
theorem apos_emissao_recusada
    (h : ∀ empresa, q.empresa = some empresa → ¬empresa.PodeEmitir quantia) :
    q.apos agora agoraDiretorio n (.emissao c quantia) = ⟨.resposta false, q, n⟩ := by
  simp only [Quadro.apos, Quadro.aposEmissao]
  cases seen : q.empresa with
  | none => rfl
  | some empresa => exact if_neg (h empresa seen)

omit [Gson R] in
theorem Emite.especial (h : Emite quantia q taxaMaxima empresa)
    (especial : JavaFloat.isFinite taxaMaxima = false) :
    q.apos agora agoraDiretorio n (.emissao c quantia) =
      ⟨.excecao .illegalArgument, { q with
        emissao := some (.novo n taxaMaxima quantia c agora)
        terminaEmissoes := insert ⟨c, empresa.historicoEmissoes.length, n⟩ q.terminaEmissoes },
        n + 1⟩ := by
  obtain ⟨seen, pode, preco⟩ := h
  simp [Quadro.apos, Quadro.aposEmissao, seen, pode, preco, especial]

omit [Gson R] in
theorem Emite.reportada (h : Emite quantia q taxaMaxima empresa)
    (finito : JavaFloat.isFinite taxaMaxima = true) :
    q.apos agora agoraDiretorio n (.emissao c quantia) =
      ⟨.resposta true, Quadro.relata { q with
        emissao := some (.novo n taxaMaxima quantia c agora)
        terminaEmissoes := insert ⟨c, empresa.historicoEmissoes.length, n⟩ q.terminaEmissoes }
        fun registo => registo.addEmissao empresa.historicoEmissoes.length taxaMaxima quantia
          false [], n + 1⟩ := by
  obtain ⟨seen, pode, preco⟩ := h
  simp [Quadro.apos, Quadro.aposEmissao, seen, pode, preco, finito]

omit [Gson R] in
/-- The two reads of `emissao.isSucesso()` agree, so the last `return 0` is not reached. -/
theorem taxaEmissao_segue {em : EmTaxa} {e : Empresa} {r : R ⊕ EmTaxa}
    (fiel : (m.parte dono c).Fiel c q) (he : m.empresas c = some e)
    (seen : q.empresa = some empresa) (pode : empresa.PodeEmitir quantia)
    (h : em.Esboco (m.parte dono c) empresa) (op : taxaEmissao m e em = .ok r) :
    match r with
    | .inl taxaMaxima => empresa.taxaEmissao = .ok taxaMaxima
    | .inr em' => em'.Esboco (m.parte dono c) empresa := by
  obtain ⟨⟨ultimo, last, success⟩, _⟩ := pode
  rw [fiel.empresa he, Option.some.injEq] at seen
  have leiloes : empresa.historicoLeiloes.getLast? =
      e.historicoLeiloes.getLast?.bind (m.parte dono c).leilao := by
    rw [← seen]
    exact Parte.getLast?_filterMap (fiel.arrumada.historicoLeiloes e he)
  have emissoes : empresa.historicoEmissoes.getLast? =
      e.historicoEmissoes.getLast?.bind (m.parte dono c).emissao := by
    rw [← seen]
    exact Parte.getLast?_filterMap (fiel.arrumada.historicoEmissoes e he)
  have size : empresa.historicoEmissoes.length = e.historicoEmissoes.length := by
    rw [← seen]
    exact Parte.length_filterMap (fiel.arrumada.historicoEmissoes e he)
  cases em with
  | lastLeilao =>
      simp only [taxaEmissao] at op
      split at op
      · next ref found =>
          cases op
          rw [found, last, Option.bind_some] at leiloes
          exact ⟨ultimo, leiloes.symm, last⟩
      · cases op
  | size ref =>
      obtain ⟨leilao, there, isLast⟩ := h
      have read : m.leilao ref = leilao := (Memoria.parte_leilao_eq.1 there).2
      simp only [taxaEmissao] at op
      split at op
      · next some' =>
          cases op
          refine ⟨⟨leilao, there, isLast⟩, ?_⟩
          rw [← size] at some'
          exact List.ne_nil_of_length_pos some'
      · next none' =>
          have empty : empresa.historicoEmissoes.getLast? = none := by
            rw [List.getLast?_eq_none_iff, ← List.length_eq_zero_iff, size]
            omega
          rw [last, Option.some.injEq] at isLast
          subst isLast
          rw [read, if_pos success] at op
          cases op
          refine ⟨ultimo, there, ?_⟩
          simp [Empresa.taxaEmissao, last, empty, success]
  | lastEmissao ref =>
      obtain ⟨isLast, some'⟩ := h
      simp only [taxaEmissao] at op
      split at op
      · next ref' found =>
          cases op
          refine ⟨isLast, ?_⟩
          rw [found, Option.bind_some] at emissoes
          obtain ⟨emissao, isLast'⟩ := List.getLast?_isSome.2 some' |> Option.isSome_iff_exists.1
          exact ⟨emissao, emissoes.symm.trans isLast', isLast'⟩
      · cases op
  | sucesso ref ref' =>
      obtain ⟨⟨leilao, there, isLast⟩, emissao, there', isLast'⟩ := h
      have read : m.leilao ref = leilao := (Memoria.parte_leilao_eq.1 there).2
      have read' : m.emissao ref' = emissao := (Memoria.parte_emissao_eq.1 there').2
      simp only [taxaEmissao, read, read'] at op
      split_ifs at op with newer newer' good <;> cases op
      · refine ⟨leilao, there, ?_⟩
        simp only [Empresa.taxaEmissao, isLast, isLast', if_pos newer]
      · have lost : leilao.sucesso = false := by simpa [newer'] using newer
        simp [Empresa.taxaEmissao, isLast, isLast', newer', lost]
      · simp [Empresa.taxaEmissao, isLast, isLast', newer', good]
      · refine ⟨emissao, there', by simpa using good, ?_⟩
        simp [Empresa.taxaEmissao, isLast, isLast', newer', good]
  | insucesso ref =>
      obtain ⟨emissao, there, failed, preco⟩ := h
      have read : m.emissao ref = emissao := (Memoria.parte_emissao_eq.1 there).2
      simp only [taxaEmissao, read, failed, Bool.not_false, if_true] at op
      cases op
      exact preco
  | maxima ref =>
      obtain ⟨leilao, there, preco⟩ := h
      have read : m.leilao ref = leilao := (Memoria.parte_leilao_eq.1 there).2
      simp only [taxaEmissao, read] at op
      cases op
      exact preco

omit [Gson R] in
theorem taxaEmissao_falha {em : EmTaxa} {e' : Empresa} (fiel : (m.parte dono c).Fiel c q)
    (he : m.empresas c = some e') (seen : q.empresa = some empresa)
    (pode : empresa.PodeEmitir quantia) (h : em.Esboco (m.parte dono c) empresa) :
    taxaEmissao m e' em ≠ .error e := by
  obtain ⟨⟨ultimo, last, success⟩, _⟩ := pode
  rw [fiel.empresa he, Option.some.injEq] at seen
  intro op
  cases em with
  | lastLeilao =>
      simp only [taxaEmissao] at op
      split at op
      · cases op
      · next empty =>
          rw [← seen, Parte.getLast?_filterMap (fiel.arrumada.historicoLeiloes e' he),
            empty] at last
          cases last
  | size ref =>
      simp only [taxaEmissao] at op
      split_ifs at op
  | lastEmissao ref =>
      simp only [taxaEmissao] at op
      split at op
      · cases op
      · next empty =>
          obtain ⟨_, some'⟩ := h
          rw [List.getLast?_eq_none_iff] at empty
          rw [← seen, empty] at some'
          exact some' rfl
  | sucesso ref ref' =>
      simp only [taxaEmissao] at op
      split_ifs at op
  | insucesso ref =>
      simp only [taxaEmissao] at op
      split_ifs at op
  | maxima ref => cases op

variable {em : EmEmissao R}

theorem emissao_segue (g : m.Guardada dono) (relogio : K agora)
    (refs : m.novaRef = n + (Ponto.emissao c quantia em).criados)
    (h : em.Esboco K c quantia n (m.parte dono c) q)
    (op : emissao c quantia agora m em = .ok m') :
    ∃ dono', m.So c dono dono' m' ∧
      Adiante K c agoraDiretorio n q (.emissao c quantia) dono' m' := by
  cases em with
  | get =>
      refine ⟨dono, ?_⟩
      simp only [emissao] at op
      split at op
      · next e hosted =>
          cases op
          refine ⟨g.so_em _, .curso rfl refs ⟨rfl, h, ?_⟩⟩
          exact Option.ne_none_iff_exists'.2 ⟨e, hosted⟩
      · next missing =>
          cases op
          have ends : q.apos agora agoraDiretorio n (.emissao c quantia) =
              ⟨.resposta false, q, n⟩ := by
            refine apos_emissao_recusada fun empresa seen => ?_
            rw [h.empresa_none missing] at seen
            cases seen
          exact ⟨g.so_em _, .decidiu rfl (decidido_of relogio ends h refs)⟩
  | size =>
      refine ⟨dono, ?_⟩
      obtain ⟨fiel, _⟩ := h
      obtain ⟨e, found, op⟩ := ok_of_bind op
      rw [empresaDe_eq_ok] at found
      split at op
      · next some' =>
          cases op
          exact ⟨g.so_em _, .curso rfl refs ⟨rfl, fiel, e, found, List.ne_nil_of_length_pos some'⟩⟩
      · next none' =>
          cases op
          have ends : q.apos agora agoraDiretorio n (.emissao c quantia) =
              ⟨.resposta false, q, n⟩ := by
            refine apos_emissao_recusada fun empresa seen pode => ?_
            obtain ⟨⟨ultimo, last, _⟩, _⟩ := pode
            rw [fiel.empresa found, Option.some.injEq] at seen
            have empty : e.historicoLeiloes = [] := List.length_eq_zero_iff.1 (by omega)
            rw [← seen] at last
            simp [empty] at last
          exact ⟨g.so_em _, .decidiu rfl (decidido_of relogio ends fiel refs)⟩
  | lastElement =>
      refine ⟨dono, ?_⟩
      obtain ⟨fiel, _⟩ := h
      obtain ⟨e, found, op⟩ := ok_of_bind op
      rw [empresaDe_eq_ok] at found
      have seen := fiel.empresa found
      have last := Parte.getLast?_filterMap (fiel.arrumada.historicoLeiloes e found)
      split at op
      · next ref isLast =>
          obtain ⟨leilao, there⟩ := Option.isSome_iff_exists.1
            (fiel.arrumada.historicoLeiloes e found ref (List.mem_of_getLast? isLast))
          rw [isLast, Option.bind_some, there] at last
          rw [(Memoria.parte_leilao_eq.1 there).2] at op
          split at op
          · next test =>
              cases op
              rw [Bool.and_eq_true, beq_iff_eq] at test
              exact ⟨g.so_em _, .curso rfl refs
                ⟨rfl, fiel, _, seen, ⟨⟨leilao, last, test.1⟩, test.2⟩, trivial⟩⟩
          · next test =>
              cases op
              rw [Bool.and_eq_true, beq_iff_eq] at test
              have ends : q.apos agora agoraDiretorio n (.emissao c quantia) =
                  ⟨.resposta false, q, n⟩ := by
                refine apos_emissao_recusada fun empresa seen' pode => ?_
                rw [seen, Option.some.injEq] at seen'
                subst seen'
                obtain ⟨⟨ultimo, last', success⟩, multiplo⟩ := pode
                rw [last, Option.some.injEq] at last'
                subst last'
                exact test ⟨success, multiplo⟩
              exact ⟨g.so_em _, .decidiu rfl (decidido_of relogio ends fiel refs)⟩
      · cases op
  | taxa em =>
      refine ⟨dono, ?_⟩
      obtain ⟨fiel, empresa, seen, pode, outline⟩ := h
      obtain ⟨e, found, op⟩ := ok_of_bind op
      obtain ⟨r, rated, op⟩ := ok_of_bind op
      rw [empresaDe_eq_ok] at found
      have next' := taxaEmissao_segue fiel found seen pode outline rated
      cases r with
      | inl taxaMaxima =>
          cases op
          exact ⟨g.so_em _, .curso rfl refs ⟨rfl, fiel, empresa, seen, pode, next'⟩⟩
      | inr em' =>
          cases op
          exact ⟨g.so_em _, .curso rfl refs ⟨rfl, fiel, empresa, seen, pode, next'⟩⟩
  | empresa taxaMaxima =>
      obtain ⟨_, _, op⟩ := ok_of_bind op
      cases op
      exact ⟨dono, g.so_em _, .curso rfl refs ⟨rfl, h⟩⟩
  | historico taxaMaxima =>
      obtain ⟨fiel, empresa, issues⟩ := h
      obtain ⟨e, found, op⟩ := ok_of_bind op
      cases op
      rw [empresaDe_eq_ok] at found
      refine ⟨dono, g.so_em _, .curso rfl refs ⟨rfl, fiel, empresa, issues, ?_⟩⟩
      have seen := issues.1
      rw [fiel.empresa found, Option.some.injEq] at seen
      rw [← seen]
      exact (Parte.length_filterMap (fiel.arrumada.historicoEmissoes _ found)).symm
  | put taxaMaxima idL =>
      obtain ⟨fiel, empresa, issues, number⟩ := h
      have first : m.novaRef = n := refs
      obtain ⟨so, opened, semFio⟩ :=
        g.abre_emissao fiel (.novo m.novaRef taxaMaxima quantia c agora)
      cases op
      refine ⟨_, so.trans (so.guardada.so_em _), .curso rfl (congrArg (· + 1) first)
        ⟨rfl, agora, empresa, relogio, issues, number, first, ?_, semFio, ?_⟩⟩
      · exact Function.update_self ..
      · rw [first] at opened
        rw [first]
        exact opened
  | thread taxaMaxima idL ref =>
      obtain ⟨agora', empresa, relogio', issues, number, nova, atual, semFio, fiel⟩ := h
      obtain ⟨x, there⟩ := Option.isSome_iff_exists.1 (fiel.arrumada.emissaoAtual ref atual)
      have dela := (Memoria.parte_emissao_eq.1 there).1
      cases op
      have so := g.so_terminaEmissao dela idL .remove
      refine ⟨dono, so.trans (so.guardada.so_em _), .curso rfl refs
        ⟨rfl, agora', empresa, relogio', issues, number, nova, ?_⟩⟩
      have started := fiel.inicia_emissao semFio idL
      rw [← Memoria.parte_terminaEmissoes dela, nova] at started
      rw [nova]
      exact started
  | post taxaMaxima idL ref =>
      obtain ⟨agora', empresa, relogio', issues, rfl, nova, fiel⟩ := h
      obtain ⟨data, found, op⟩ := ok_of_bind op
      cases op
      obtain ⟨finito, rfl⟩ := toJson_eq_ok.1 found
      rw [RestRequest.finito_abertura] at finito
      obtain ⟨so, told⟩ := g.reporta fiel (Directory.after_naEmpresa c _ _)
      exact ⟨dono, so.trans (so.guardada.so_em _),
        .decidiu rfl (decidido_of relogio' (issues.reportada finito) told refs)⟩

theorem emissao_falha (refs : m.novaRef = n + (Ponto.emissao c quantia em).criados)
    (h : em.Esboco K c quantia n (m.parte dono c) q)
    (op : emissao c quantia agora m em = .error e) :
    Decidido K c n (m.parte dono c) q agoraDiretorio (.emissao c quantia) (.excecao e)
      m.novaRef := by
  have hosted (there : m.empresas c ≠ none) : m.empresaDe c ≠ .error e :=
    fun failed => there (empresaDe_eq_error.1 failed).1
  have known {empresa : Exchange.Empresa R} (fiel : (m.parte dono c).Fiel c q)
      (seen : q.empresa = some empresa) : m.empresas c ≠ none := by
    intro missing
    rw [fiel.empresa_none missing] at seen
    cases seen
  cases em with
  | get =>
      simp only [emissao] at op
      split at op <;> cases op
  | size =>
      rcases error_of_bind op with failed | ⟨e', _, rest⟩
      · exact absurd failed (hosted h.2)
      · split at rest <;> cases rest
  | lastElement =>
      obtain ⟨fiel, e', found, some'⟩ := h
      rcases error_of_bind op with failed | ⟨e'', found', rest⟩
      · exact absurd failed (hosted (Option.ne_none_iff_exists'.2 ⟨e', found⟩))
      · rw [empresaDe_eq_ok] at found'
        cases found.symm.trans found'
        split at rest
        · split at rest <;> cases rest
        · next empty => exact absurd (List.getLast?_eq_none_iff.1 empty) some'
  | taxa em =>
      obtain ⟨fiel, empresa, seen, pode, outline⟩ := h
      rcases error_of_bind op with failed | ⟨e', found, rest⟩
      · exact absurd failed (hosted (known fiel seen))
      · rw [empresaDe_eq_ok] at found
        rcases error_of_bind rest with failed | ⟨r, _, rest⟩
        · exact absurd failed (taxaEmissao_falha fiel found seen pode outline)
        · cases r <;> cases rest
  | empresa taxaMaxima =>
      obtain ⟨fiel, empresa, issues⟩ := h
      exact absurd (error_of_bind_pure op) (hosted (known fiel issues.1))
  | historico taxaMaxima =>
      obtain ⟨fiel, empresa, issues⟩ := h
      exact absurd (error_of_bind_pure op) (hosted (known fiel issues.1))
  | put taxaMaxima idL => cases op
  | thread taxaMaxima idL ref => cases op
  | post taxaMaxima idL ref =>
      obtain ⟨agora', empresa, relogio', issues, rfl, nova, fiel⟩ := h
      obtain ⟨especial, rfl⟩ := toJson_eq_error.1 (error_of_bind_pure op)
      rw [RestRequest.finito_abertura] at especial
      exact decidido_of relogio' (issues.especial especial) fiel refs

end Emissao

end PeerLanding.Threads
