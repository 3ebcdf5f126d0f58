import PeerLanding.Protocolo.Messages

/-! What the bytes of one message are after those of another, and what `merge_msgs` has to do with
it. -/

namespace PeerLanding.Gpb

open Words

variable {V : Type}

def mOverwrite (_prev new : V) : V := new

instance : Std.Associative (mOverwrite : V → V → V) := ⟨fun _ _ _ => rfl⟩

@[simp] theorem merge_mOverwrite_some (prev : Option V) (new : V) :
    Option.merge mOverwrite prev (some new) = some new := by
  cases prev <;> rfl

theorem mergeMsgMensagem_assoc (a b c : Mensagem) :
    mergeMsgMensagem (mergeMsgMensagem a b) c = mergeMsgMensagem a (mergeMsgMensagem b c) := by
  simp [mergeMsgMensagem, Option.or_assoc]

instance : Std.Associative mergeMsgMensagem := ⟨mergeMsgMensagem_assoc⟩

namespace MsgName

/-- What is left where nothing that was seen is forgotten: a field that is in both is the newer
one, except that submessages are merged. -/
def junta : ∀ n : MsgName, n.Msg → n.Msg → n.Msg
  | mensagem => fun prev new =>
      { tipo := prev.tipo.merge mOverwrite new.tipo
        juro := prev.juro.merge mOverwrite new.juro
        quantia := prev.quantia.merge mOverwrite new.quantia
        empresa := prev.empresa.merge mOverwrite new.empresa
        investidor := prev.investidor.merge mOverwrite new.investidor }
  | exchangeRequest => fun prev new =>
      { mensagem := prev.mensagem.merge mergeMsgMensagem new.mensagem
        pid := prev.pid.merge mOverwrite new.pid }
  | exchangeReply => fun prev new => { sucesso := prev.sucesso.merge mOverwrite new.sucesso }
  | authReq => fun prev new =>
      { username := prev.username.merge mOverwrite new.username
        password := prev.password.merge mOverwrite new.password }
  | authRep => fun prev new =>
      { sucesso := prev.sucesso.merge mOverwrite new.sucesso
        tipo := prev.tipo.merge mOverwrite new.tipo }
  | reply => fun prev new => { sucesso := prev.sucesso.merge mOverwrite new.sucesso }

variable {n : MsgName}

theorem junta_assoc (a b c : n.Msg) : n.junta (n.junta a b) c = n.junta a (n.junta b c) := by
  cases n <;> simp [junta, Std.Associative.assoc]

theorem junta_undef (m : n.Msg) : n.junta m n.undef = m := by
  cases n <;> simp [junta, undef]

theorem poe_junta {L : List UInt8 → V → Prop} {poe : V → n.Msg → n.Msg} {w : List UInt8}
    {u : n.Msg → n.Msg} (adds : ∀ v m, poe v m = n.junta m (poe v n.undef)) (h : Poe L poe w u)
    (m : n.Msg) : u m = n.junta m (u n.undef) := by
  obtain ⟨v, -, rfl⟩ := h
  exact adds v m

theorem valor_junta {key : Nat} {w : List UInt8} {u : n.Msg → n.Msg} (h : n.valor key w u)
    (m : n.Msg) : u m = n.junta m (u n.undef) := by
  unfold valor at h
  split at h
  · exact poe_junta (n := mensagem) (by simp [junta, undef, Mensagem.poeTipo]) h m
  · exact poe_junta (n := mensagem) (by simp [junta, undef, Mensagem.poeJuro]) h m
  · exact poe_junta (n := mensagem) (by simp [junta, undef, Mensagem.poeQuantia]) h m
  · exact poe_junta (n := mensagem) (by simp [junta, undef, Mensagem.poeEmpresa]) h m
  · exact poe_junta (n := mensagem) (by simp [junta, undef, Mensagem.poeInvestidor]) h m
  · refine poe_junta (n := exchangeRequest) (fun v m => ?_) h m
    cases prev : m.mensagem <;> simp [junta, undef, ExchangeRequest.poeMensagem, prev]
  · exact poe_junta (n := exchangeRequest) (by simp [junta, undef, ExchangeRequest.poePid]) h m
  · exact poe_junta (n := exchangeReply) (by simp [junta, ExchangeReply.poeSucesso]) h m
  · exact poe_junta (n := authReq) (by simp [junta, undef, AuthReq.poeUsername]) h m
  · exact poe_junta (n := authReq) (by simp [junta, undef, AuthReq.poePassword]) h m
  · exact poe_junta (n := authRep) (by simp [junta, undef, AuthRep.poeSucesso]) h m
  · exact poe_junta (n := authRep) (by simp [junta, undef, AuthRep.poeTipo]) h m
  · exact poe_junta (n := reply) (by simp [junta, Reply.poeSucesso]) h m
  · cases h

/-- Every field adds its value to what has been seen. -/
theorem campo_junta {w : List UInt8} {u : n.Msg → n.Msg} (h : n.gramatica.Campo w u) (m : n.Msg) :
    u m = n.junta m (u n.undef) := by
  cases h with
  | ignorado _ _ _ => exact (junta_undef m).symm
  | conhecido _ _ value => exact valor_junta value m

theorem Diz.append {a b : List UInt8} {p q : n.Msg} (first : n.Diz a p) (second : n.Diz b q) :
    n.Diz (a ++ b) (n.junta p q) := by
  obtain ⟨us, text, rfl⟩ := first
  obtain ⟨us', text', rfl⟩ := second
  refine ⟨us ++ us', text.append text', ?_⟩
  have adds : ∀ u ∈ us', ∀ m, u m = n.junta m (u n.undef) := fun u hu =>
    campo_junta (text'.mem hu).choose_spec
  rw [List.foldl_append]
  exact (foldl_add junta_assoc junta_undef adds _).symm

/-- No required field that `prev` has is missing in `new`, and a required submessage is in both. -/
def Completa : ∀ n : MsgName, n.Msg → n.Msg → Prop
  | mensagem => fun prev new => prev.tipo.isSome → new.tipo.isSome
  | exchangeRequest => fun prev new =>
      prev.mensagem.isSome ∧ new.mensagem.isSome ∧ (prev.pid.isSome → new.pid.isSome)
  | exchangeReply => fun prev new => prev.sucesso.isSome → new.sucesso.isSome
  | authReq => fun prev new =>
      (prev.username.isSome → new.username.isSome) ∧
        (prev.password.isSome → new.password.isSome)
  | authRep => fun prev new => prev.sucesso.isSome → new.sucesso.isSome
  | reply => fun prev new => prev.sucesso.isSome → new.sucesso.isSome

theorem merge_eq_or {prev new : Option V} : prev.merge mOverwrite new = new.or prev := by
  cases prev <;> cases new <;> rfl

theorem or_eq_new {prev new : Option V} : new.or prev = new ↔ (prev.isSome → new.isSome) := by
  cases prev <;> cases new <;> simp

theorem mergeMsgs_eq_junta (prev new : n.Msg) :
    some (n.junta prev new) = mergeMsgs n prev new ↔ n.Completa prev new := by
  cases n with
  | mensagem =>
      obtain ⟨tipo, juro, quantia, empresa, investidor⟩ := new
      simp [junta, mergeMsgs, mergeMsgMensagem, Completa, merge_eq_or, or_eq_new]
  | exchangeRequest =>
      obtain ⟨p, pid⟩ := prev
      obtain ⟨q, pid'⟩ := new
      cases p <;> cases q <;>
        simp [junta, mergeMsgs, mergeMsgExchangeRequest, Completa, merge_eq_or, or_eq_new]
  | exchangeReply =>
      obtain ⟨sucesso⟩ := new
      simp [junta, mergeMsgs, mergeMsgExchangeReply, Completa, merge_eq_or, or_eq_new]
  | authReq =>
      obtain ⟨username, password⟩ := new
      simp [junta, mergeMsgs, mergeMsgAuthReq, Completa, merge_eq_or, or_eq_new]
  | authRep =>
      obtain ⟨sucesso, tipo⟩ := new
      simp [junta, mergeMsgs, mergeMsgAuthRep, Completa, merge_eq_or, or_eq_new]
  | reply =>
      obtain ⟨sucesso⟩ := new
      simp [junta, mergeMsgs, mergeMsgReply, Completa, merge_eq_or, or_eq_new]

end MsgName

/-- Two messages in a row are decoded as the one that `merge_msgs` makes of them if and only if no
required field is lost in the merge and, for an `ExchangeRequest`, both have their `mensagem`. -/
theorem merges (n : MsgName) {a b : List UInt8} {p q : n.Msg}
    (first : decodeMsg2Doit n a = some p) (second : decodeMsg2Doit n b = some q) :
    decodeMsg2Doit n (a ++ b) = mergeMsgs n p q ↔ n.Completa p q := by
  have both := (MsgName.decode_eq_some.1 first).append (MsgName.decode_eq_some.1 second)
  rw [MsgName.decode_eq_some.2 both]
  exact MsgName.mergeMsgs_eq_junta p q

theorem merges_authRep :
    decodeMsg2Doit .authRep ([8, 1, 16, 1] ++ [8, 0]) =
        mergeMsgs .authRep ⟨some true, some 1⟩ ⟨some false, none⟩ ∧
      decodeMsg2Doit .authRep ([8, 1, 16, 1] ++ [16, 2]) ≠
        mergeMsgs .authRep ⟨some true, some 1⟩ ⟨none, some 2⟩ := by
  constructor
  · exact (merges .authRep (by decide +kernel) (by decide +kernel)).2
      (by simp [MsgName.Completa])
  · exact mt (merges .authRep (by decide +kernel) (by decide +kernel)).1
      (by simp [MsgName.Completa])

end PeerLanding.Gpb
