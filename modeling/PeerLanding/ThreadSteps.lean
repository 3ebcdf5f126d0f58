import PeerLanding.Exchange.Transport
import PeerLanding.Threads

/-! What one operation of a thread does, method by method. -/

namespace PeerLanding.Threads

open Exchange

variable {R : Type} [JavaFloat R] [Gson R]

section Resultados

variable {α β ε : Type}

theorem ok_of_bind {x : Except ε α} {f : α → Except ε β} {b : β} (h : x >>= f = .ok b) :
    ∃ a, x = .ok a ∧ f a = .ok b := by
  cases x with
  | error e => cases h
  | ok a => exact ⟨a, rfl, h⟩

omit [JavaFloat R] [Gson R] in
theorem empresaDe_eq_ok {m : Memoria R} {c : String} {empresa : Empresa} :
    m.empresaDe c = .ok empresa ↔ m.empresas c = some empresa := by
  unfold Memoria.empresaDe
  cases m.empresas c <;> simp

theorem toJson_eq_ok {rr : RestRequest R} {data : Directory.RestRequest R} :
    toJson rr = .ok data ↔ rr.finito = true ∧ rr.recebido = data := by
  unfold toJson
  cases finito : rr.finito with
  | true => simp [Gson.toJson_finito rr finito, Except.map, RestRequest.ofJson_json]
  | false => simp [Gson.toJson_especial rr finito, Except.map]

end Resultados

/-- What a step is: a request that arrives, the next operation of a method, the end of a request,
or an exception, which ends its thread. -/
inductive Memoria.Move (m : Memoria R) : Passo R → Option Resultado → Memoria R → Prop
  | recv {p : Pedido R} (at' : m.exchange = .recv) : m.Move (.recv p) none (m.em (inicio p))
  | licitar {agora agoraDiretorio : LocalDateTime} {empresa investidor : String}
      {quantia : Int32} {juro : R} {em : EmLicitar} {m' : Memoria R}
      (at' : m.exchange = .licitar empresa investidor quantia juro em)
      (op : Threads.licitar empresa investidor quantia juro m em = .ok m') :
      m.Move (.exchange agora agoraDiretorio) none m'
  | emprestimo {agora agoraDiretorio : LocalDateTime} {empresa investidor : String}
      {quantia : Int32} {em : EmEmprestimo} {m' : Memoria R}
      (at' : m.exchange = .emprestimo empresa investidor quantia em)
      (op : Threads.emprestimo empresa investidor quantia m em = .ok m') :
      m.Move (.exchange agora agoraDiretorio) none m'
  | emissao {agora agoraDiretorio : LocalDateTime} {empresa : String} {quantia : Int32}
      {em : EmEmissao R} {m' : Memoria R} (at' : m.exchange = .emissao empresa quantia em)
      (op : Threads.emissao empresa quantia agora m em = .ok m') :
      m.Move (.exchange agora agoraDiretorio) none m'
  | leilao {agora agoraDiretorio : LocalDateTime} {empresa : String} {quantia : Int32}
      {juro : R} {em : EmLeilao} {m' : Memoria R}
      (at' : m.exchange = .leilao empresa quantia juro em)
      (op : Threads.leilao empresa quantia juro agora agoraDiretorio m em = .ok m') :
      m.Move (.exchange agora agoraDiretorio) none m'
  | falhaLeilao {agora agoraDiretorio : LocalDateTime} {empresa : String} {quantia : Int32}
      {juro : R} {em : EmLeilao} {e : Excecao} (at' : m.exchange = .leilao empresa quantia juro em)
      (op : Threads.leilao empresa quantia juro agora agoraDiretorio m em = .error e) :
      m.Move (.exchange agora agoraDiretorio) (some (.excecao e)) (m.em .fim)
  | falha {agora agoraDiretorio : LocalDateTime} {e : Excecao}
      (outro : ∀ empresa quantia juro em, m.exchange ≠ .leilao empresa quantia juro em)
      (meio : ∀ p objeto idL, m.exchange ≠ .aceita p objeto idL) :
      m.Move (.exchange agora agoraDiretorio) (some (.excecao e)) (m.em .fim)
  | aceita {agora agoraDiretorio : LocalDateTime} {p : Pedido R} {objeto idL : Nat}
      (at' : m.exchange = .aceita p objeto idL) :
      m.Move (.exchange agora agoraDiretorio) (some (.resposta true)) (m.em .recv)
  | recusa {agora agoraDiretorio : LocalDateTime} (at' : m.exchange = .recusa) :
      m.Move (.exchange agora agoraDiretorio) (some (.resposta false)) (m.em .recv)
  | terminaLeilao {ref idL : Nat} {empresa : String} {em em' : EmTerminaLeilao R}
      {m' : Memoria R} (at' : m.terminaLeiloes ref = some ⟨empresa, idL, em⟩) (corre : em ≠ .fim)
      (op : Threads.terminaLeilao empresa idL m em = .ok (em', m')) :
      m.Move (.terminaLeilao ref) none (m'.poeTerminaLeilao ref ⟨empresa, idL, em'⟩)
  | falhaTerminaLeilao {ref idL : Nat} {empresa : String} {em : EmTerminaLeilao R} {e : Excecao}
      (at' : m.terminaLeiloes ref = some ⟨empresa, idL, em⟩) (corre : em ≠ .fim)
      (op : Threads.terminaLeilao empresa idL m em = .error e) :
      m.Move (.terminaLeilao ref) (some (.excecao e)) (m.poeTerminaLeilao ref ⟨empresa, idL, .fim⟩)
  | terminaEmissao {ref idL : Nat} {empresa : String} {em em' : EmTerminaEmissao R}
      {m' : Memoria R} (at' : m.terminaEmissoes ref = some ⟨empresa, idL, em⟩)
      (corre : em ≠ .fim) (op : Threads.terminaEmissao empresa idL m em = .ok (em', m')) :
      m.Move (.terminaEmissao ref) none (m'.poeTerminaEmissao ref ⟨empresa, idL, em'⟩)
  | falhaTerminaEmissao {ref idL : Nat} {empresa : String} {em : EmTerminaEmissao R}
      {e : Excecao} (at' : m.terminaEmissoes ref = some ⟨empresa, idL, em⟩) (corre : em ≠ .fim)
      (op : Threads.terminaEmissao empresa idL m em = .error e) :
      m.Move (.terminaEmissao ref) (some (.excecao e))
        (m.poeTerminaEmissao ref ⟨empresa, idL, .fim⟩)

theorem Memoria.Passa.move {m m' : Memoria R} {l : Passo R} {r : Option Resultado}
    (h : m.Passa l r m') : m.Move l r m' := by
  cases l with
  | recv p =>
      simp only [Passa, proximo] at h
      split at h
      · next at' =>
          cases h
          exact .recv at'
      · cases h
  | exchange agora agoraDiretorio =>
      simp only [Passa, proximo, passa] at h
      split at h
      · cases h
      · next empresa investidor quantia juro em at' =>
          cases op : Threads.licitar empresa investidor quantia juro m em <;>
            rw [op] at h <;> cases h
          · exact .falha (by simp [at']) (by simp [at'])
          · exact .licitar at' op
      · next empresa investidor quantia em at' =>
          cases op : Threads.emprestimo empresa investidor quantia m em <;>
            rw [op] at h <;> cases h
          · exact .falha (by simp [at']) (by simp [at'])
          · exact .emprestimo at' op
      · next empresa quantia em at' =>
          cases op : Threads.emissao empresa quantia agora m em <;> rw [op] at h <;> cases h
          · exact .falha (by simp [at']) (by simp [at'])
          · exact .emissao at' op
      · next empresa quantia juro em at' =>
          cases op : Threads.leilao empresa quantia juro agora agoraDiretorio m em <;>
            rw [op] at h <;> cases h
          · exact .falhaLeilao at' op
          · exact .leilao at' op
      · next at' =>
          cases h
          exact .aceita at'
      · next at' =>
          cases h
          exact .recusa at'
      · cases h
  | terminaLeilao ref =>
      simp only [Passa, proximo] at h
      split at h
      · cases h
      · cases h
      · next empresa idL em corre at' =>
          split at h
          · next op =>
              cases h
              exact .terminaLeilao at' corre op
          · next op =>
              cases h
              exact .falhaTerminaLeilao at' corre op
  | terminaEmissao ref =>
      simp only [Passa, proximo] at h
      split at h
      · cases h
      · cases h
      · next empresa idL em corre at' =>
          split at h
          · next op =>
              cases h
              exact .terminaEmissao at' corre op
          · next op =>
              cases h
              exact .falhaTerminaEmissao at' corre op

end PeerLanding.Threads
