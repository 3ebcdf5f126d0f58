import PeerLanding.Exchange.Allocation
import PeerLanding.Holdings
import PeerLanding.Network

/-! Which accounts invest and which own auctions and emissions. The manager gives a session
the type of its account, and the session passes it to the client; nothing checks it again.
The routing table alone keeps investors from opening auctions. -/

namespace PeerLanding.Frontend

open Exchange

variable {Packet R : Type}

def Contas.tipo (contas : Contas) (user : String) : Option Nat :=
  (contas user).map (·.tipo)

/-! ### The account table and the routing table -/

theorem tipo_update {contas : Contas} {outro : String} {conta : Conta}
    (found : contas outro = some conta) (ativa : Bool) (user : String) :
    Contas.tipo (Function.update contas outro (some { conta with ativa })) user =
      contas.tipo user := by
  unfold Contas.tipo
  rw [Function.update_apply]
  split_ifs with same
  · rw [same, found, Option.map_some, Option.map_some]
  · rfl

theorem Decide.tipo {contas contas' : Contas} {p : Solicitacao} {valor : Valor}
    (h : Decide contas p valor contas') (user : String) :
    contas'.tipo user = contas.tipo user := by
  cases h with
  | concede la livre => exact tipo_update la true user
  | liberta la ativa => exact tipo_update la false user
  | recusa livre => rfl

theorem Portal.Run.tipo {protocolo : Protocolo Packet R} {t : List (Frontend.Lance Packet R)}
    {s : Portal Packet R} (h : Portal.Run protocolo t s) (user : String) :
    s.contas.tipo user = accountService.tipo user := by
  refine Runs.Run.invariant (fun _ s => s.contas.tipo user = accountService.tipo user) h rfl ?_
  intro t s e r s' _ before hs
  have unchanged (same : s'.contas = s.contas) :
      s'.contas.tipo user = accountService.tipo user := by
    rw [same]
    exact before
  cases hs.move with
  | gestor la => exact ((gestor_decide _ _).tipo user).trans before
  | producer la => exact unchanged (Portal.contas_run _)
  | recebe la fez => exact unchanged (Portal.contas_aplica _)
  | _ => exact unchanged rfl

theorem accountService_tipo {user : String} {conta : Conta}
    (found : accountService user = some conta) : conta.tipo = 1 ∨ conta.tipo = 2 :=
  forall_of_lookup (fun conta => conta.tipo = 1 ∨ conta.tipo = 2) (by decide) found

theorem empresas_tipo : ∀ rota ∈ empresas, accountService.tipo rota.1 = some 2 := by
  decide +kernel

theorem Concedido.tipo {protocolo : Protocolo Packet R} {t : List (Frontend.Lance Packet R)}
    {s : Portal Packet R} (run : Portal.Run protocolo t s) {i : Nat} {user : String}
    (h : Concedido t i user) :
    accountService.tipo user = some 1 ∨ accountService.tipo user = some 2 := by
  obtain ⟨e, he, n, conta, _, _, found, _⟩ := h
  obtain ⟨u, before, _, _⟩ := run.of_mem he
  have registered : accountService.tipo user = some conta.tipo := by
    rw [← Portal.Run.tipo before user, Contas.tipo, found, Option.map_some]
  obtain ⟨stored, known, same⟩ := Option.map_eq_some_iff.1 registered
  rw [registered, ← same, Option.some.injEq, Option.some.injEq]
  exact accountService_tipo known

theorem producer_tipo {m : Mensagem R} {endereco : String} (h : producer m = some endereco) :
    accountService.tipo (m.empresa.getD "") = some 2 := by
  obtain ⟨empresa, he, found⟩ := Option.bind_eq_some_iff.1 h
  rw [he, Option.getD_some]
  exact empresas_tipo _ (mem_of_lookup found)

/-! ### What exchanges record -/

/-- A registered account, of either type. -/
def Investidor (user : String) : Prop :=
  accountService.tipo user = some 1 ∨ accountService.tipo user = some 2

def LeilaoRegistado (c : String) (leilao : Leilao R) : Prop :=
  (leilao.empresa = c ∧ accountService.tipo c = some 2) ∧
    ∀ l ∈ leilao.licitacoes, Investidor l.investidor

def EmissaoRegistada (c : String) (emissao : Emissao R) : Prop :=
  (emissao.empresa = c ∧ accountService.tipo c = some 2) ∧
    ∀ l ∈ emissao.licitacoes, Investidor l.investidor

theorem DoUtilizador.investidor {user : String} {m : Mensagem R} (h : DoUtilizador user m)
    (bid : m.tipo = "licitar" ∨ m.tipo = "emprestimo") : m.investidor = some user := by
  cases h with
  | inl mine => exact mine.2
  | inr opens => obtain same | same := bid <;> simp [same] at opens

section Registos

variable [JavaFloat R]

theorem LeilaoRegistado.termina {c : String} {leilao : Leilao R} (h : LeilaoRegistado c leilao)
    (idL : Int) : LeilaoRegistado c (leilao.termina c idL).1 := by
  obtain ⟨owner, bids⟩ := h
  rcases leilao.termina_cases c idL with ⟨_, ht⟩ | ⟨_, _, ht⟩ | ⟨_, _, ht⟩ <;> rw [ht]
  · exact ⟨owner, bids⟩
  · exact ⟨owner, bids⟩
  · exact ⟨owner, fun l hl => bids l (leilao.mem_of_mem_alocadas hl)⟩

theorem EmissaoRegistada.termina {c : String} {emissao : Emissao R}
    (h : EmissaoRegistada c emissao) (idL : Int) :
    EmissaoRegistada c (emissao.termina c idL).1 := by
  obtain ⟨sucesso, ht⟩ := emissao.termina_eq c idL
  rw [ht]
  exact h

/-- A request that reaches an exchange bids for a registered account, and opens auctions and
emissions of a company. -/
theorem admite_of_enviado {protocolo : Protocolo Packet R} {t : List (Frontend.Lance Packet R)}
    {s : Portal Packet R} (h : Portal.Run protocolo t s) {q : Enviado R}
    (sent : q ∈ s.enviados) :
    (pedido q.mensagem).Admite LeilaoRegistado EmissaoRegistada := by
  obtain ⟨user, granted, signed, route⟩ := (Portal.Run.atribuido h).enviados q sent
  replace signed := usersession_doUtilizador signed
  have company := producer_tipo route
  have investor := granted.tipo h
  unfold pedido
  dsimp only
  split_ifs with bid loan issue auction
  · intro leilao registered
    refine ⟨registered.1, ?_⟩
    intro l hl
    cases List.mem_append.1 hl with
    | inl old => exact registered.2 l old
    | inr new =>
        rw [List.mem_singleton.1 new, signed.investidor (.inl bid)]
        exact investor
  · intro emissao registered
    refine ⟨registered.1, ?_⟩
    intro l hl
    cases List.mem_append.1 hl with
    | inl old => exact registered.2 l old
    | inr new =>
        rw [List.mem_singleton.1 new, signed.investidor (.inr loan)]
        exact investor
  · intro ref taxa agora
    exact ⟨⟨rfl, company⟩, fun l hl => by cases hl⟩
  · intro ref agora
    exact ⟨⟨rfl, company⟩, fun l hl => by cases hl⟩
  · trivial

end Registos

/-! ### The whole system -/

/-- Only investors invest, and only companies own auctions and emissions. -/
def Papeis (s : Rede Packet R) : Prop :=
  ∀ endereco exchange, s.exchanges endereco = some exchange →
    (∀ user, exchange.Investe user → s.portal.contas.tipo user = some 1) ∧
      ∀ c, exchange.Possui c → s.portal.contas.tipo c = some 2

section Rede

variable [JavaFloat R] [Gson R]

theorem guarda_of_run {protocolo : Protocolo Packet R} {t : List (Rede.Lance Packet R)}
    {s : Rede Packet R} (h : Rede.Run protocolo t s) {endereco : String} {exchange : Sistema R}
    (found : s.exchanges endereco = some exchange) :
    exchange.Guarda LeilaoRegistado EmissaoRegistada := by
  refine h.exchanges (·.Guarda LeilaoRegistado EmissaoRegistada) ?_ ?_ found
  · exact fun nomes => Sistema.guarda_inicial nomes _
  · intro u m endereco l r old novo run pede before step
    have here : Sistema.Guarda LeilaoRegistado EmissaoRegistada
        { old with diretorio := m.diretorio } :=
      ⟨before.leiloes, before.emissoes, before.historicoLeiloes, before.historicoEmissoes⟩
    refine here.passa step ?_ (fun c leilao idL => (·.termina idL))
      (fun c emissao idL => (·.termina idL))
    intro amb p hl
    cases pede with
    | pedido amb' sent para =>
        cases hl
        exact admite_of_enviado run sent
    | terminaLeilao amb' thread => cases hl
    | terminaEmissao amb' thread => cases hl

/-- In every reachable state of the whole system every bid or loan is one of a registered
account, of either type, and every auction or emission belongs to a registered company. -/
theorem roles {protocolo : Protocolo Packet R} {t : List (Rede.Lance Packet R)}
    {s : Rede Packet R} (h : Rede.Run protocolo t s) {endereco : String} {exchange : Sistema R}
    (found : s.exchanges endereco = some exchange) :
    (∀ user, exchange.Investe user →
      s.portal.contas.tipo user = some 1 ∨ s.portal.contas.tipo user = some 2) ∧
      ∀ c, exchange.Possui c → s.portal.contas.tipo c = some 2 := by
  obtain ⟨u, portal⟩ := Rede.Run.portal h
  have kept := guarda_of_run h found
  refine ⟨?_, ?_⟩
  · intro user invests
    rw [Portal.Run.tipo portal user]
    obtain ⟨c, ⟨leilao, hl, l, bid, rfl⟩ | ⟨emissao, hl, l, loan, rfl⟩⟩ := invests
    · exact ((kept.ficha c).1 leilao hl).2 l bid
    · exact ((kept.ficha c).2 emissao hl).2 l loan
  · intro c owns
    rw [Portal.Run.tipo portal c]
    obtain ⟨d, ⟨leilao, hl, hc⟩ | ⟨emissao, hl, hc⟩⟩ := owns
    · obtain ⟨⟨field, company⟩, _⟩ := (kept.ficha d).1 leilao hl
      obtain rfl | rfl := hc
      · exact company
      · exact field ▸ company
    · obtain ⟨⟨field, company⟩, _⟩ := (kept.ficha d).2 emissao hl
      obtain rfl | rfl := hc
      · exact company
      · exact field ▸ company

end Rede

/-- `CanecaLda` logs in, opens an auction and bids on it. -/
def ownAuction : List (Rede.Evento (AuthReq ⊕ Decodificada Binary32)) :=
  [.portal .aceita, .portal (.tcp 0 (.inl ⟨.texto "CanecaLda", .texto "mongo"⟩)),
    .portal (.recebe 0), .portal (.gestor 0), .portal (.entrega 0), .portal (.recebe 0),
    .portal (.tcp 0 (.inr ⟨.texto "leilao", some (.intBitsToFloat 0x40000000), some 1000, none,
      none⟩)), .portal (.recebe 0), .portal (.producer 0), .exchange (.em 1) 0,
    .portal (.tcp 0 (.inr ⟨.texto "licitar", some (.intBitsToFloat 0x3f800000), some 100,
      some (.texto "CanecaLda"), none⟩)), .portal (.recebe 0), .portal (.producer 0),
    .exchange (.em 2) 0]

theorem ownAuction_happens : (Rede.corrida .direto ownAuction).isSome := by decide +kernel

theorem ownAuction_bid :
    ((((Rede.corrida .direto ownAuction).get ownAuction_happens).2.exchanges
      "tcp://localhost:4000").bind (·.leiloes "CanecaLda")).map (·.licitacoes) =
      some [⟨"CanecaLda", .intBitsToFloat 0x3f800000, 100⟩] := by decide +kernel

theorem ownAuction_investe : ∃ exchange,
    ((Rede.corrida .direto ownAuction).get ownAuction_happens).2.exchanges
      "tcp://localhost:4000" = some exchange ∧
      ∃ leilao ∈ (exchange.ficha "CanecaLda").leiloes, leilao.empresa = "CanecaLda" ∧
        ∃ l ∈ leilao.licitacoes, l.investidor = "CanecaLda" := by
  obtain ⟨leilao, running, bids⟩ := Option.map_eq_some_iff.1 ownAuction_bid
  obtain ⟨exchange, found, here⟩ := Option.bind_eq_some_iff.1 running
  have mine : leilao ∈ (exchange.ficha "CanecaLda").leiloes := by
    simp [Ficha.leiloes, Sistema.ficha, here]
  have kept := guarda_of_run (Rede.run_corrida ownAuction_happens) found
  refine ⟨exchange, found, leilao, mine, ((kept.ficha "CanecaLda").1 leilao mine).1.1, ?_⟩
  exact ⟨_, by rw [bids]; exact List.mem_singleton_self _, rfl⟩

/-- An account of a company can be the investor, also of its own auction. -/
theorem roles_ownAuction :
    ∃ (t : List (Rede.Lance (AuthReq ⊕ Decodificada Binary32) Binary32))
      (s : Rede (AuthReq ⊕ Decodificada Binary32) Binary32), Rede.Run .direto t s ∧
      ¬Papeis s ∧ ∃ exchange, s.exchanges "tcp://localhost:4000" = some exchange ∧
        ∃ leilao ∈ (exchange.ficha "CanecaLda").leiloes, leilao.empresa = "CanecaLda" ∧
          ∃ l ∈ leilao.licitacoes, l.investidor = "CanecaLda" := by
  have run := Rede.run_corrida ownAuction_happens
  obtain ⟨u, portal⟩ := Rede.Run.portal run
  obtain ⟨exchange, found, leilao, mine, owner, l, bid, investor⟩ := ownAuction_investe
  refine ⟨_, _, run, ?_, exchange, found, leilao, mine, owner, l, bid, investor⟩
  intro papeis
  have claimed := (papeis _ exchange found).1 "CanecaLda"
    ⟨"CanecaLda", .inl ⟨leilao, mine, l, bid, investor⟩⟩
  rw [Portal.Run.tipo portal] at claimed
  revert claimed
  decide +kernel

/-- The same run as an instance of the general result. -/
theorem roles_canecaLda :
    ∃ (t : List (Rede.Lance (AuthReq ⊕ Decodificada Binary32) Binary32))
      (s : Rede (AuthReq ⊕ Decodificada Binary32) Binary32), Rede.Run .direto t s ∧
      ∃ exchange, s.exchanges "tcp://localhost:4000" = some exchange ∧
        exchange.Investe "CanecaLda" ∧ s.portal.contas.tipo "CanecaLda" = some 2 := by
  have run := Rede.run_corrida ownAuction_happens
  obtain ⟨exchange, found, leilao, mine, owner, l, bid, investor⟩ := ownAuction_investe
  refine ⟨_, _, run, exchange, found, ⟨"CanecaLda", .inl ⟨leilao, mine, l, bid, investor⟩⟩, ?_⟩
  exact (roles run found).2 "CanecaLda" ⟨"CanecaLda", .inl ⟨leilao, mine, .inr owner⟩⟩

end PeerLanding.Frontend
