import PeerLanding.Company
import PeerLanding.Logged

/-! What the exchange and its settlement threads send on the `pub` socket. The programs are those
of the requests and the settlements with their `pub.send`, over the state and what has been sent. -/

namespace PeerLanding.Exchange

open Logged

inductive Assunto (R : Type) where
  | comecou
  | licitacao (licitacao : Licitacao R)
  | terminado
  deriving DecidableEq

structure Aviso (R : Type) where
  tipo : Recurso
  empresa : String
  assunto : Assunto R
  deriving DecidableEq

variable {R : Type}

def Recurso.nome : Recurso → String
  | .leilao => "leilao"
  | .emissao => "emissao"

/-- The text of the notice; `mostra` is `Float.toString`. -/
def Aviso.texto (mostra : R → String) : Aviso R → String
  | ⟨.leilao, empresa, .comecou⟩ => "leilao-" ++ empresa ++ "-Começou um leilão"
  | ⟨.leilao, empresa, .licitacao l⟩ => "leilao-" ++ empresa ++ "-nova licitação de: " ++
      l.investidor ++ " juro: " ++ mostra l.taxa ++ " quantia: " ++ toString l.quantia
  | ⟨.leilao, empresa, .terminado⟩ => "leilao-" ++ empresa ++ "-Terminado"
  | ⟨.emissao, empresa, .comecou⟩ => "emissao-" ++ empresa ++ "-Começou uma emissao"
  | ⟨.emissao, empresa, .licitacao l⟩ => "emissao-" ++ empresa ++ "-nova licitação de: " ++
      l.investidor ++ " quantia: " ++ toString l.quantia
  | ⟨.emissao, empresa, .terminado⟩ => "emissao-" ++ empresa ++ "-Terminado"

/-- A bid on an emission has no rate. -/
def Aviso.SemTaxa [JavaFloat R] (a : Aviso R) : Prop :=
  a.tipo = .emissao → ∀ l, a.assunto = .licitacao l → l.taxa = JavaFloat.zero

namespace Publica

abbrev Programa (R : Type) : Type → Type := Logged.Program Excecao (Sistema R) (Aviso R)

def send (tipo : Recurso) (empresa : String) (assunto : Assunto R) : Programa R Unit :=
  tell ⟨tipo, empresa, assunto⟩

variable [JavaFloat R] [Gson R]

def licitar (amb : Ambiente) (empresa investidor : String) (quantia : Int32) (juro : R) :
    Programa R Bool := do
  match (← lift get).leiloes empresa with
  | none => return false
  | some leilaoAtual =>
      if JavaFloat.lt juro leilaoAtual.taxaMaxima && quantia % 100 == 0 then
        let licitacao := ⟨investidor, juro, quantia⟩
        let leilaoAtual :=
          { leilaoAtual with licitacoes := leilaoAtual.licitacoes ++ [licitacao] }
        lift (modify fun s =>
          { s with leiloes := Function.update s.leiloes empresa (some leilaoAtual) })
        send .leilao empresa (.licitacao licitacao)
        let empresaObj ← lift (empresaDe empresa)
        lift (postDiretorioInvestidor amb .leilao empresa empresaObj.historicoLeiloes.length
          (leilaoAtual.licitacoes.length - 1) investidor juro quantia)
        return true
      else
        return false

def emprestimo (amb : Ambiente) (empresa investidor : String) (quantia : Int32) :
    Programa R Bool := do
  match (← lift get).emissoes empresa with
  | none => return false
  | some emissaoAtual =>
      if quantia % 100 == 0 then
        let licitacao := Licitacao.semTaxa investidor quantia
        let emissaoAtual :=
          { emissaoAtual with licitacoes := emissaoAtual.licitacoes ++ [licitacao] }
        lift (modify fun s =>
          { s with emissoes := Function.update s.emissoes empresa (some emissaoAtual) })
        send .emissao empresa (.licitacao licitacao)
        let empresaObj ← lift (empresaDe empresa)
        lift (postDiretorioInvestidor amb .emissao empresa empresaObj.historicoEmissoes.length
          (emissaoAtual.licitacoes.length - 1) investidor JavaFloat.zero quantia)
        return true
      else
        return false

def emissao (amb : Ambiente) (empresa : String) (quantia : Int32) : Programa R Bool := do
  match (← lift get).empresas empresa with
  | none => return false
  | some empresaObj =>
      match empresaObj.historicoLeiloes.getLast? with
      | none => return false
      | some ultimoLeilao =>
          if ultimoLeilao.sucesso && quantia % 1000 == 0 then
            match empresaObj.taxaEmissao with
            | .error e => throw e
            | .ok taxaMaxima =>
                let idL := empresaObj.historicoEmissoes.length
                let ref ← lift novoObjeto
                let novaEmissao := Emissao.novo ref taxaMaxima quantia empresa amb.agora
                lift (modify fun s =>
                  { s with
                    emissoes := Function.update s.emissoes empresa (some novaEmissao)
                    terminaEmissoes := s.terminaEmissoes ++ [⟨empresa, idL, ref⟩] })
                send .emissao empresa .comecou
                lift (postDiretorioEmpresa amb .emissao empresa idL taxaMaxima quantia)
                return true
          else
            return false

def leilao (amb : Ambiente) (empresa : String) (quantia : Int32) (juro : R) :
    Programa R Bool := do
  match (← lift get).leiloes empresa with
  | some _ => return false
  | none =>
      if quantia % 1000 == 0 then
        let ref ← lift novoObjeto
        let leilao := Leilao.novo ref juro quantia empresa amb.agora
        lift (modify fun s =>
          { s with leiloes := Function.update s.leiloes empresa (some leilao) })
        let idL := (← lift (empresaDe empresa)).historicoLeiloes.length
        lift (modify fun s =>
          { s with terminaLeiloes := s.terminaLeiloes ++ [⟨empresa, idL, ref⟩] })
        send .leilao empresa .comecou
        lift (postDiretorioEmpresa amb .leilao empresa idL juro quantia)
        return true
      else
        return false

def terminaLeilao (amb : Ambiente) (this : TerminaLeilao) : Programa R Unit := do
  let leilao := (← lift get).leiloes this.empresa
  lift (modify fun s => { s with leiloes := Function.update s.leiloes this.empresa none })
  match leilao with
  | none => throw .nullPointer
  | some leilao =>
      let (leilao, rr) := leilao.termina this.empresa this.idL
      let empresa ← lift (empresaDe this.empresa)
      let historicoLeiloes := empresa.historicoLeiloes ++ [leilao]
      lift (modify fun s =>
        { s with
          empresas := Function.update s.empresas this.empresa
            (some { empresa with historicoLeiloes }) })
      send .leilao this.empresa .terminado
      let data ← lift (toJson rr)
      lift (envia amb (Directory.putLeilaoSucesso data))

def terminaEmissao (amb : Ambiente) (this : TerminaEmissao) : Programa R Unit := do
  let emissao := (← lift get).emissoes this.empresa
  lift (modify fun s => { s with emissoes := Function.update s.emissoes this.empresa none })
  match emissao with
  | none => throw .nullPointer
  | some emissao =>
      let (emissao, rr) := emissao.termina this.empresa this.idL
      let empresa ← lift (empresaDe this.empresa)
      let historicoEmissoes := empresa.historicoEmissoes ++ [emissao]
      lift (modify fun s =>
        { s with
          empresas := Function.update s.empresas this.empresa
            (some { empresa with historicoEmissoes }) })
      send .emissao this.empresa .terminado
      let data ← lift (toJson rr)
      lift (envia amb (Directory.putEmissaoSucesso data))

def atende (amb : Ambiente) : Pedido R → Programa R Bool
  | .licitar empresa investidor quantia juro => licitar amb empresa investidor quantia juro
  | .emprestimo empresa investidor quantia => emprestimo amb empresa investidor quantia
  | .emissao empresa quantia => emissao amb empresa quantia
  | .leilao empresa quantia juro => leilao amb empresa quantia juro
  | .outro => return false

/-! ### What each program sends -/

variable {amb : Ambiente} {c investidor : String} {quantia : Int32} {juro : R}

def deLicitar (c investidor : String) (quantia : Int32) (juro : R) (s : Sistema R) :
    List (Aviso R) :=
  match s.leiloes c with
  | some leilao =>
      if JavaFloat.lt juro leilao.taxaMaxima && quantia % 100 == 0 then
        [⟨.leilao, c, .licitacao ⟨investidor, juro, quantia⟩⟩]
      else []
  | none => []

theorem writes_licitar : Writes (licitar amb c investidor quantia juro)
    (Exchange.licitar amb c investidor quantia juro) (deLicitar c investidor quantia juro) := by
  refine Writes.read (fun s _ => deLicitar c investidor quantia juro s) fun s => ?_
  unfold deLicitar
  cases s.leiloes c with
  | none => exact writes_pure false
  | some leilao =>
      dsimp only
      split
      · refine Writes.update _ (fun _ => _) (Writes.tell _ ?_)
        exact Writes.silent_bind fun _ => Writes.silent_bind fun _ => writes_pure true
      · exact writes_pure false

def deEmprestimo (c investidor : String) (quantia : Int32) (s : Sistema R) : List (Aviso R) :=
  match s.emissoes c with
  | some _ =>
      if quantia % 100 == 0 then
        [⟨.emissao, c, .licitacao (.semTaxa investidor quantia)⟩]
      else []
  | none => []

theorem writes_emprestimo : Writes (emprestimo amb c investidor quantia)
    (Exchange.emprestimo amb c investidor quantia)
    (deEmprestimo (R := R) c investidor quantia) := by
  refine Writes.read (fun s _ => deEmprestimo c investidor quantia s) fun s => ?_
  unfold deEmprestimo
  cases s.emissoes c with
  | none => exact writes_pure false
  | some emissao =>
      dsimp only
      split
      · refine Writes.update _ (fun _ => _) (Writes.tell _ ?_)
        exact Writes.silent_bind fun _ => Writes.silent_bind fun _ => writes_pure true
      · exact writes_pure false

def deEmissao (c : String) (quantia : Int32) (s : Sistema R) : List (Aviso R) :=
  match s.empresas c with
  | some empresa => if empresa.PodeEmitir quantia then [⟨.emissao, c, .comecou⟩] else []
  | none => []

theorem writes_emissao : Writes (emissao amb c quantia) (Exchange.emissao amb c quantia)
    (deEmissao (R := R) c quantia) := by
  refine Writes.read (fun s _ => deEmissao c quantia s) fun s => ?_
  unfold deEmissao
  cases s.empresas c with
  | none => exact writes_pure false
  | some empresa =>
      dsimp only
      by_cases pode : empresa.PodeEmitir quantia
      · rw [if_pos pode]
        obtain ⟨taxa, preco⟩ := Empresa.taxaEmissao_ok pode
        obtain ⟨⟨ultimo, last, success⟩, multiplo⟩ := pode
        have can : (ultimo.sucesso && quantia % 1000 == 0) = true := by simp [success, multiplo]
        simp only [last, can, if_true, preco]
        refine (Writes.lift_bind (fun _ _ => [(⟨.emissao, c, .comecou⟩ : Aviso R)])
          fun ref => ?_).congr fun _ => rfl
        refine Writes.update _ (fun _ => _) (Writes.tell _ ?_)
        exact Writes.silent_bind fun _ => writes_pure true
      · rw [if_neg pode]
        cases last : empresa.historicoLeiloes.getLast? with
        | none => exact writes_pure false
        | some ultimo =>
            have cannot : (ultimo.sucesso && quantia % 1000 == 0) = false := by
              by_contra can
              rw [Bool.not_eq_false, Bool.and_eq_true, beq_iff_eq] at can
              exact pode ⟨⟨ultimo, last, can.1⟩, can.2⟩
            simp only [cannot]
            exact writes_pure false

def seHospeda (c : String) (out : List (Aviso R)) (s : Sistema R) : List (Aviso R) :=
  if (s.empresas c).isSome then out else []

omit [JavaFloat R] [Gson R] in
theorem after_empresaDe (c : String) (out : List (Aviso R)) (s : Sistema R) :
    after (fun _ _ => out) ((empresaDe c).run s) = seHospeda c out s := by
  rw [empresaDe_run, seHospeda]
  cases s.empresas c <;> rfl

def deLeilao (c : String) (quantia : Int32) (s : Sistema R) : List (Aviso R) :=
  match s.leiloes c with
  | some _ => []
  | none => if quantia % 1000 == 0 then seHospeda c [⟨.leilao, c, .comecou⟩] s else []

theorem writes_leilao : Writes (leilao amb c quantia juro) (Exchange.leilao amb c quantia juro)
    (deLeilao c quantia) := by
  refine Writes.read (fun s (now : Sistema R) => match s.leiloes c with
    | some _ => []
    | none => if quantia % 1000 == 0 then seHospeda c [⟨.leilao, c, .comecou⟩] now else [])
    fun s => ?_
  cases s.leiloes c with
  | some _ => exact writes_pure false
  | none =>
      dsimp only
      split
      · refine Writes.lift_bind (fun _ => seHospeda c [⟨.leilao, c, .comecou⟩]) fun ref => ?_
        refine Writes.update _ (seHospeda c [⟨.leilao, c, .comecou⟩]) ?_
        refine (Writes.lift_bind (fun _ _ => _) fun empresa => ?_).congr (after_empresaDe c _)
        refine Writes.update _ (fun _ => _) (Writes.tell _ ?_)
        exact Writes.silent_bind fun _ => writes_pure true
      · exact writes_pure false

def deTerminaLeilao (this : TerminaLeilao) (s : Sistema R) : List (Aviso R) :=
  match s.leiloes this.empresa with
  | some _ => seHospeda this.empresa [⟨.leilao, this.empresa, .terminado⟩] s
  | none => []

theorem writes_terminaLeilao (this : TerminaLeilao) : Writes (terminaLeilao amb this)
    (this.run amb) (deTerminaLeilao (R := R) this) := by
  refine Writes.read (fun s (now : Sistema R) => match s.leiloes this.empresa with
    | some _ => seHospeda this.empresa [⟨.leilao, this.empresa, .terminado⟩] now
    | none => []) fun s => ?_
  cases s.leiloes this.empresa with
  | none => exact Writes.update _ (fun _ => []) (writes_throw _)
  | some leilao =>
      refine Writes.update _ (seHospeda this.empresa [⟨.leilao, this.empresa, .terminado⟩]) ?_
      refine (Writes.lift_bind (fun _ _ => _) fun empresa => ?_).congr (after_empresaDe _ _)
      refine Writes.update _ (fun _ => _) (Writes.tell _ ?_)
      exact Writes.silent_bind fun _ => writes_lift _

def deTerminaEmissao (this : TerminaEmissao) (s : Sistema R) : List (Aviso R) :=
  match s.emissoes this.empresa with
  | some _ => seHospeda this.empresa [⟨.emissao, this.empresa, .terminado⟩] s
  | none => []

theorem writes_terminaEmissao (this : TerminaEmissao) : Writes (terminaEmissao amb this)
    (this.run amb) (deTerminaEmissao (R := R) this) := by
  refine Writes.read (fun s (now : Sistema R) => match s.emissoes this.empresa with
    | some _ => seHospeda this.empresa [⟨.emissao, this.empresa, .terminado⟩] now
    | none => []) fun s => ?_
  cases s.emissoes this.empresa with
  | none => exact Writes.update _ (fun _ => []) (writes_throw _)
  | some emissao =>
      refine Writes.update _ (seHospeda this.empresa [⟨.emissao, this.empresa, .terminado⟩]) ?_
      refine (Writes.lift_bind (fun _ _ => _) fun empresa => ?_).congr (after_empresaDe _ _)
      refine Writes.update _ (fun _ => _) (Writes.tell _ ?_)
      exact Writes.silent_bind fun _ => writes_lift _

def dePedido : Pedido R → Sistema R → List (Aviso R)
  | .licitar empresa investidor quantia juro => deLicitar empresa investidor quantia juro
  | .emprestimo empresa investidor quantia => deEmprestimo empresa investidor quantia
  | .emissao empresa quantia => deEmissao empresa quantia
  | .leilao empresa quantia _ => deLeilao empresa quantia
  | .outro => fun _ => []

theorem writes_atende (amb : Ambiente) (p : Pedido R) :
    Writes (atende amb p) (Exchange.atende amb p) (dePedido p) := by
  cases p with
  | licitar _ _ _ _ => exact writes_licitar
  | emprestimo _ _ _ => exact writes_emprestimo
  | emissao _ _ => exact writes_emissao
  | leilao _ _ _ => exact writes_leilao
  | outro => exact writes_pure false

end Publica

end PeerLanding.Exchange

namespace PeerLanding

open Exchange Logged

variable {R : Type} [JavaFloat R] [Gson R]

/-- One exchange, the Directory, and what the exchange has sent. -/
abbrev Estacao (R : Type) : Type := Sistema R × List (Aviso R)

namespace Estacao

def corre (x : EStateM.Result Excecao (Estacao R) Unit) : Resultado × Estacao R :=
  match x with
  | .ok _ e => (.fim, e)
  | .error erro e => (.excecao erro, e)

def proximo (e : Estacao R) : Passo R → Option (Resultado × Estacao R)
  | .pedido amb p =>
      if e.1.vivo then
        match (Publica.atende amb p).run e with
        | .ok sucesso e' => some (.resposta sucesso, e')
        | .error erro e' => some (.excecao erro, { e'.1 with vivo := false }, e'.2)
      else none
  | .terminaLeilao amb thread =>
      if thread ∈ e.1.terminaLeiloes then
        some (corre ((Publica.terminaLeilao amb thread).run
          ({ e.1 with terminaLeiloes := e.1.terminaLeiloes.erase thread }, e.2)))
      else none
  | .terminaEmissao amb thread =>
      if thread ∈ e.1.terminaEmissoes then
        some (corre ((Publica.terminaEmissao amb thread).run
          ({ e.1 with terminaEmissoes := e.1.terminaEmissoes.erase thread }, e.2)))
      else none

def Passa (e : Estacao R) (l : Passo R) (r : Resultado) (e' : Estacao R) : Prop :=
  e.proximo l = some (r, e')

def inicial (nomes registadas : List String) : Estacao R := (.inicial nomes registadas, [])

abbrev Run (nomes registadas : List String) :
    List (Runs.Transition (Estacao R) (Passo R) Resultado) → Estacao R → Prop :=
  Runs.Run Passa (inicial nomes registadas)

def corrida (nomes registadas : List String) (passos : List (Passo R)) :
    Option (List (Runs.Transition (Estacao R) (Passo R) Resultado) × Estacao R) :=
  Runs.exec proximo (inicial nomes registadas) passos

theorem run_corrida {nomes registadas : List String} {passos : List (Passo R)}
    (h : (corrida nomes registadas passos).isSome) :
    Run nomes registadas ((corrida nomes registadas passos).get h).1
      ((corrida nomes registadas passos).get h).2 := Runs.run_exec h

end Estacao

def Exchange.Passo.avisos : Passo R → Sistema R → List (Aviso R)
  | .pedido _ p => Publica.dePedido p
  | .terminaLeilao _ thread => Publica.deTerminaLeilao thread
  | .terminaEmissao _ thread => Publica.deTerminaEmissao thread

omit [Gson R] in
theorem Exchange.Passo.length_avisos (l : Passo R) (s : Sistema R) :
    (l.avisos s).length ≤ 1 := by
  cases l with
  | pedido amb p =>
      cases p with
      | licitar c investidor quantia juro =>
          simp only [avisos, Publica.dePedido, Publica.deLicitar]
          split
          · split <;> simp
          · simp
      | emprestimo c investidor quantia =>
          simp only [avisos, Publica.dePedido, Publica.deEmprestimo]
          split
          · split <;> simp
          · simp
      | emissao c quantia =>
          simp only [avisos, Publica.dePedido, Publica.deEmissao]
          split
          · split <;> simp
          · simp
      | leilao c quantia juro =>
          simp only [avisos, Publica.dePedido, Publica.deLeilao, Publica.seHospeda]
          split
          · simp
          · split
            · split <;> simp
            · simp
      | outro => simp [avisos, Publica.dePedido]
  | terminaLeilao amb thread =>
      simp only [avisos, Publica.deTerminaLeilao, Publica.seHospeda]
      split
      · split <;> simp
      · simp
  | terminaEmissao amb thread =>
      simp only [avisos, Publica.deTerminaEmissao, Publica.seHospeda]
      split
      · split <;> simp
      · simp

omit [JavaFloat R] [Gson R] in
theorem Estacao.corre_note (log out : List (Aviso R))
    (x : EStateM.Result Excecao (Sistema R) Unit) :
    corre (note log out x) = ((Sistema.corre x).1, (Sistema.corre x).2, log ++ out) := by
  cases x <;> rfl

/-- Sending has no part in what a step does, and a step sends what it says it sends. -/
theorem Estacao.proximo_eq (s : Sistema R) (log : List (Aviso R)) (l : Passo R) :
    proximo (s, log) l = (s.proximo l).map fun p => (p.1, p.2, log ++ l.avisos s) := by
  cases l with
  | pedido amb p =>
      simp only [proximo, Sistema.proximo]
      split
      · rw [Publica.writes_atende amb p s log]
        cases (atende amb p).run s <;> rfl
      · rfl
  | terminaLeilao amb thread =>
      simp only [proximo, Sistema.proximo]
      split
      · rw [Publica.writes_terminaLeilao thread _ log, corre_note]
        rfl
      · rfl
  | terminaEmissao amb thread =>
      simp only [proximo, Sistema.proximo]
      split
      · rw [Publica.writes_terminaEmissao thread _ log, corre_note]
        rfl
      · rfl

theorem Estacao.passa_iff {e e' : Estacao R} {l : Passo R} {r : Resultado} :
    e.Passa l r e' ↔ e.1.Passa l r e'.1 ∧ e'.2 = e.2 ++ l.avisos e.1 := by
  rw [Passa, proximo_eq e.1 e.2, Option.map_eq_some_iff]
  constructor
  · rintro ⟨⟨r', s'⟩, step, both⟩
    cases both
    exact ⟨step, rfl⟩
  · rintro ⟨step, sent⟩
    exact ⟨(r, e'.1), step, by rw [← sent]⟩

/-- The exchange of a station runs as an exchange does. -/
theorem Estacao.Run.sistema {nomes registadas : List String}
    {t : List (Runs.Transition (Estacao R) (Passo R) Resultado)} {e : Estacao R}
    (h : Run nomes registadas t e) : Sistema.Run nomes registadas (t.map (·.map (·.1))) e.1 := by
  induction h with
  | nil => exact .nil
  | snoc _ step ih =>
      rw [List.map_append]
      exact .snoc ih (passa_iff.1 step).1

end PeerLanding
