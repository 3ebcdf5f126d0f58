import PeerLanding.Sessions
import PeerLanding.Words

/-! `protocolo:decode_msg` and `protocolo:merge_msgs`. A decoder passes on the values of the fields
that it has seen, `none` for `'$undef'`; here each field says what it does to them. -/

namespace PeerLanding.Gpb

open Words

/-- What `unicode:characters_to_list` makes of bytes: a text, or a tuple with what it stopped at. -/
inductive Unicode where
  | texto (s : String)
  | erro (bs : List UInt8)
  deriving DecidableEq

def charactersToList (bs : List UInt8) : Unicode :=
  (String.fromUTF8? ⟨bs.toArray⟩).elim (.erro bs) .texto

/-! ### Messages

A required field that was not there is in the map with `'$undef'`, an optional one is not. -/

structure Mensagem where
  tipo : Option Unicode := none
  juro : Option Binary32 := none
  quantia : Option Int32 := none
  empresa : Option Unicode := none
  investidor : Option Unicode := none
  deriving DecidableEq

structure ExchangeRequest where
  mensagem : Option Mensagem := none
  pid : Option (List UInt8) := none
  deriving DecidableEq

structure ExchangeReply where
  sucesso : Option Bool := none
  deriving DecidableEq

structure AuthReq where
  username : Option Unicode := none
  password : Option Unicode := none
  deriving DecidableEq

structure AuthRep where
  sucesso : Option Bool := none
  tipo : Option Int32 := none
  deriving DecidableEq

structure Reply where
  sucesso : Option Bool := none
  deriving DecidableEq

/-! ### Values -/

/-- Bytes with the high bit while `N` is below `limite`, then one without: `X bsl N + Acc`. -/
def dVarint (limite : Nat) : List UInt8 → Nat → Nat → Option (Nat × List UInt8)
  | [], _, _ => none
  | b :: rest, n, acc =>
      if 128 ≤ b.toNat then
        if n < limite then dVarint limite rest (n + 7) ((b.toNat % 128) <<< n + acc) else none
      else some ((b.toNat % 128) <<< n + acc, rest)

def dBytes (bin : List UInt8) : Option (List UInt8 × List UInt8) := do
  let (len, rest) ← dVarint 57 bin 0 0
  take len rest

def dString (bin : List UInt8) : Option (Unicode × List UInt8) :=
  (dBytes bin).map fun (utf8, rest) => (charactersToList utf8, rest)

def dInt32 (bin : List UInt8) : Option (Int32 × List UInt8) :=
  (dVarint 57 bin 0 0).map fun (value, rest) => (.ofInt value, rest)

def dBool (bin : List UInt8) : Option (Bool × List UInt8) :=
  (dVarint 57 bin 0 0).map fun (value, rest) => (value != 0, rest)

def Binary32.infinity : Binary32 := .num false (Fin.last infMagnitude)

def Binary32.negInfinity : Binary32 := .num true (Fin.last infMagnitude)

/-- `Value:32/little-float` does not match the infinities and the NaNs, which come first. -/
def dFloat : List UInt8 → Option (Binary32 × List UInt8)
  | b₀ :: b₁ :: b₂ :: b₃ :: rest =>
      if b₀ = 0 ∧ b₁ = 0 ∧ b₂ = 128 ∧ b₃ = 127 then some (Binary32.infinity, rest)
      else if b₀ = 0 ∧ b₁ = 0 ∧ b₂ = 128 ∧ b₃ = 255 then some (Binary32.negInfinity, rest)
      else if 128 ≤ b₂.toNat ∧ b₃.toNat % 128 = 127 then some (.nan, rest)
      else some (.intBitsToFloat
        (b₀.toNat + 2 ^ 8 * b₁.toNat + 2 ^ 16 * b₂.toNat + 2 ^ 24 * b₃.toNat), rest)
  | _ => none

/-! ### Groups -/

/-- As `dVarint`, with the number of bytes added to `len`. -/
def grVarint (limite : Nat) : List UInt8 → Nat → Nat → Nat → Option (Nat × Nat × List UInt8)
  | [], _, _, _ => none
  | b :: tl, n, acc, len =>
      if 128 ≤ b.toNat then
        if n < limite then grVarint limite tl (n + 7) ((b.toNat % 128) <<< n + acc) (len + 1)
        else none
      else some ((b.toNat % 128) <<< n + acc, len + 1, tl)

/-- The length of what comes before the end of group `fieldNum`, and the length of that end. -/
def readGrB (fieldNum : Nat) : Nat → List UInt8 → Nat → Option (Nat × Nat)
  | 0, _, _ => none
  | fuel + 1, bin, numBytes => do
      let (key, tagLen, tl) ← grVarint 25 bin 0 0 0
      if key / 8 = fieldNum ∧ key % 8 = 4 then return (numBytes, tagLen)
      else
        match key % 8 with
        | 0 =>
            let (_, numBytes, tl) ← grVarint 57 tl 0 0 (numBytes + tagLen)
            readGrB fieldNum fuel tl numBytes
        | 1 =>
            let (_, tl) ← take 8 tl
            readGrB fieldNum fuel tl (numBytes + tagLen + 8)
        | 2 =>
            let (len, numBytes, tl) ← grVarint 57 tl 0 0 (numBytes + tagLen)
            let (_, tl) ← take len tl
            readGrB fieldNum fuel tl (numBytes + len)
        | 3 => readGrB fieldNum fuel tl (numBytes + tagLen)
        | 4 => readGrB fieldNum fuel tl (numBytes + tagLen)
        | 5 =>
            let (_, tl) ← take 4 tl
            readGrB fieldNum fuel tl (numBytes + tagLen + 4)
        | _ => none

def readGroup (bin : List UInt8) (fieldNum : Nat) : Option (List UInt8 × List UInt8) := do
  let (numBytes, endTagLen) ← readGrB fieldNum bin.length bin 0
  let (group, rest) ← take numBytes bin
  let (_, rest) ← take endTagLen rest
  return (group, rest)

/-! ### Fields -/

variable {M V : Type}

/-- What the next field does to the values seen so far, and what follows it. -/
abbrev Leitor (M : Type) : Type := List UInt8 → Option ((M → M) × List UInt8)

def campo (read : List UInt8 → Option (V × List UInt8)) (poe : V → M → M) : Leitor M :=
  fun bin => (read bin).map fun (v, rest) => (poe v, rest)

def salta (skip : List UInt8 → Option (List UInt8)) : Leitor M :=
  fun bin => (skip bin).map fun rest => (id, rest)

def skipVarint : List UInt8 → Option (List UInt8)
  | [] => none
  | b :: rest => if 128 ≤ b.toNat then skipVarint rest else some rest

def skipLengthDelimited (bin : List UInt8) : Option (List UInt8) := (dBytes bin).map (·.2)

def skipGroup (fNum : Nat) (bin : List UInt8) : Option (List UInt8) :=
  (readGroup bin fNum).map (·.2)

def skip32 (bin : List UInt8) : Option (List UInt8) := (take 4 bin).map (·.2)

def skip64 (bin : List UInt8) : Option (List UInt8) := (take 8 bin).map (·.2)

abbrev Campos (M : Type) : Type := Nat → Option (Leitor M)

/-- A field of any message, by its whole key. -/
def dgReadFieldDef (campos : Campos M) : Leitor M := fun bin => do
  let (key, rest) ← dVarint 25 bin 0 0
  match campos key with
  | some dField => dField rest
  | none =>
      match key % 8 with
      | 0 => salta skipVarint rest
      | 1 => salta skip64 rest
      | 2 => salta skipLengthDelimited rest
      | 3 => salta (skipGroup (key / 8)) rest
      | 5 => salta skip32 rest
      | _ => none

/-- The same with a look at the first byte, which is the whole key of a field that is known. -/
def dfpReadFieldDef (campos : Campos M) : Leitor M
  | [] => none
  | b :: rest =>
      match campos b.toNat with
      | some dField => dField rest
      | none => dgReadFieldDef campos (b :: rest)

/-- `none` where `decode_msg` raises. -/
def decodeMsg (campos : Campos M) (undef : M) (bin : List UInt8) : Option M :=
  fold (dfpReadFieldDef campos) (fun m dField => dField m) bin.length bin undef

/-! ### The messages of `protocolo.proto` -/

namespace Mensagem

def poeTipo (v : Unicode) (m : Mensagem) : Mensagem := { m with tipo := some v }

def poeJuro (v : Binary32) (m : Mensagem) : Mensagem := { m with juro := some v }

def poeQuantia (v : Int32) (m : Mensagem) : Mensagem := { m with quantia := some v }

def poeEmpresa (v : Unicode) (m : Mensagem) : Mensagem := { m with empresa := some v }

def poeInvestidor (v : Unicode) (m : Mensagem) : Mensagem := { m with investidor := some v }

end Mensagem

def dFieldMensagemTipo : Leitor Mensagem := campo dString Mensagem.poeTipo

def dFieldMensagemJuro : Leitor Mensagem := campo dFloat Mensagem.poeJuro

def dFieldMensagemQuantia : Leitor Mensagem := campo dInt32 Mensagem.poeQuantia

def dFieldMensagemEmpresa : Leitor Mensagem := campo dString Mensagem.poeEmpresa

def dFieldMensagemInvestidor : Leitor Mensagem := campo dString Mensagem.poeInvestidor

def camposMensagem : Campos Mensagem
  | 10 => some dFieldMensagemTipo
  | 21 => some dFieldMensagemJuro
  | 24 => some dFieldMensagemQuantia
  | 34 => some dFieldMensagemEmpresa
  | 42 => some dFieldMensagemInvestidor
  | _ => none

def decodeMsgMensagem : List UInt8 → Option Mensagem := decodeMsg camposMensagem {}

def mergeMsgMensagem (prev new : Mensagem) : Mensagem where
  tipo := new.tipo
  juro := new.juro <|> prev.juro
  quantia := new.quantia <|> prev.quantia
  empresa := new.empresa <|> prev.empresa
  investidor := new.investidor <|> prev.investidor

def dMensagem (bin : List UInt8) : Option (Mensagem × List UInt8) := do
  let (bs, rest) ← dBytes bin
  return (← decodeMsgMensagem bs, rest)

/-- A message that comes in two fields is the two of them merged. -/
def ExchangeRequest.poeMensagem (new : Mensagem) (m : ExchangeRequest) : ExchangeRequest :=
  match m.mensagem with
  | none => { m with mensagem := some new }
  | some prev => { m with mensagem := some (mergeMsgMensagem prev new) }

def ExchangeRequest.poePid (v : List UInt8) (m : ExchangeRequest) : ExchangeRequest :=
  { m with pid := some v }

def dFieldExchangeRequestMensagem : Leitor ExchangeRequest :=
  campo dMensagem ExchangeRequest.poeMensagem

def dFieldExchangeRequestPid : Leitor ExchangeRequest := campo dBytes ExchangeRequest.poePid

def camposExchangeRequest : Campos ExchangeRequest
  | 10 => some dFieldExchangeRequestMensagem
  | 18 => some dFieldExchangeRequestPid
  | _ => none

def decodeMsgExchangeRequest : List UInt8 → Option ExchangeRequest :=
  decodeMsg camposExchangeRequest {}

def ExchangeReply.poeSucesso (v : Bool) (m : ExchangeReply) : ExchangeReply :=
  { m with sucesso := some v }

def dFieldExchangeReplySucesso : Leitor ExchangeReply := campo dBool ExchangeReply.poeSucesso

def camposExchangeReply : Campos ExchangeReply
  | 8 => some dFieldExchangeReplySucesso
  | _ => none

def decodeMsgExchangeReply : List UInt8 → Option ExchangeReply := decodeMsg camposExchangeReply {}

def AuthReq.poeUsername (v : Unicode) (m : AuthReq) : AuthReq := { m with username := some v }

def AuthReq.poePassword (v : Unicode) (m : AuthReq) : AuthReq := { m with password := some v }

def dFieldAuthReqUsername : Leitor AuthReq := campo dString AuthReq.poeUsername

def dFieldAuthReqPassword : Leitor AuthReq := campo dString AuthReq.poePassword

def camposAuthReq : Campos AuthReq
  | 10 => some dFieldAuthReqUsername
  | 18 => some dFieldAuthReqPassword
  | _ => none

def decodeMsgAuthReq : List UInt8 → Option AuthReq := decodeMsg camposAuthReq {}

def AuthRep.poeSucesso (v : Bool) (m : AuthRep) : AuthRep := { m with sucesso := some v }

def AuthRep.poeTipo (v : Int32) (m : AuthRep) : AuthRep := { m with tipo := some v }

def dFieldAuthRepSucesso : Leitor AuthRep := campo dBool AuthRep.poeSucesso

def dFieldAuthRepTipo : Leitor AuthRep := campo dInt32 AuthRep.poeTipo

def camposAuthRep : Campos AuthRep
  | 8 => some dFieldAuthRepSucesso
  | 16 => some dFieldAuthRepTipo
  | _ => none

def decodeMsgAuthRep : List UInt8 → Option AuthRep := decodeMsg camposAuthRep {}

def Reply.poeSucesso (v : Bool) (m : Reply) : Reply := { m with sucesso := some v }

def dFieldReplySucesso : Leitor Reply := campo dBool Reply.poeSucesso

def camposReply : Campos Reply
  | 8 => some dFieldReplySucesso
  | _ => none

def decodeMsgReply : List UInt8 → Option Reply := decodeMsg camposReply {}

/-! ### The other merges; `none` where no clause matches -/

def mergeMsgExchangeRequest (prev new : ExchangeRequest) : Option ExchangeRequest :=
  match prev.mensagem, new.mensagem with
  | some pMensagem, some nMensagem =>
      some { mensagem := some (mergeMsgMensagem pMensagem nMensagem), pid := new.pid }
  | _, _ => none

def mergeMsgExchangeReply (_prev new : ExchangeReply) : ExchangeReply := { sucesso := new.sucesso }

def mergeMsgAuthReq (_prev new : AuthReq) : AuthReq :=
  { username := new.username, password := new.password }

def mergeMsgAuthRep (prev new : AuthRep) : AuthRep where
  sucesso := new.sucesso
  tipo := new.tipo <|> prev.tipo

def mergeMsgReply (_prev new : Reply) : Reply := { sucesso := new.sucesso }

end PeerLanding.Gpb
