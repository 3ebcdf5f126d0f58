import PeerLanding.AuctionLifecycle
import PeerLanding.Deliveries
import PeerLanding.Notices
import PeerLanding.Survival

/-! What the notices say. Somebody who reads all of them knows the bids of every open auction and
of every running emission, and how many have ended. -/

namespace PeerLanding

open Exchange

variable {R : Type}

/-- What is known about the auctions of a company, or about its emissions: the bids of the one that
goes on, and how many have ended. -/
structure Historia (R : Type) where
  aberta : Option (List (Licitacao R)) := none
  terminadas : Nat := 0
  deriving DecidableEq

/-- One more notice; `none` where it cannot come now. An emission may follow one that goes on. -/
def Historia.le (tipo : Recurso) (c : String) (h : Historia R) (a : Aviso R) :
    Option (Historia R) :=
  if a.tipo = tipo ∧ a.empresa = c then
    match a.assunto with
    | .comecou =>
        if tipo = .leilao ∧ h.aberta.isSome then none else some { h with aberta := some [] }
    | .licitacao l => h.aberta.map fun ls => { h with aberta := some (ls ++ [l]) }
    | .terminado => h.aberta.map fun _ => ⟨none, h.terminadas + 1⟩
  else some h

def Ficha.historia (tipo : Recurso) (f : Ficha R) : Historia R :=
  match tipo with
  | .leilao => ⟨f.leilao.map (·.licitacoes), f.empresa.historicoLeiloes.length⟩
  | .emissao => ⟨f.emissao.map (·.licitacoes), f.empresa.historicoEmissoes.length⟩

/-- What somebody makes of one more notice who may not have read the earlier ones: `none` as long
as it is not known whether there is an open one. -/
def Historia.segue (tipo : Recurso) (c : String) (v : Option (Option (List (Licitacao R))))
    (a : Aviso R) : Option (Option (List (Licitacao R))) :=
  if a.tipo = tipo ∧ a.empresa = c then
    match a.assunto with
    | .comecou => some (some [])
    | .licitacao l => v.map fun aberta => aberta.map (· ++ [l])
    | .terminado => some none
  else v

theorem Historia.segue_le {tipo : Recurso} {c : String} {h h' : Historia R} {a : Aviso R}
    {v : Option (Option (List (Licitacao R)))} (read : h.le tipo c a = some h')
    (hv : ∀ x ∈ v, x = h.aberta) : ∀ x ∈ Historia.segue tipo c v a, x = h'.aberta := by
  unfold Historia.segue
  unfold Historia.le at read
  split at read
  · next about =>
      rw [if_pos about]
      cases assunto : a.assunto with
      | comecou =>
          simp only [assunto] at read
          split at read
          · cases read
          · cases read
            simp
      | licitacao l =>
          simp only [assunto, Option.map_eq_some_iff] at read
          obtain ⟨ls, aberta, rfl⟩ := read
          cases v with
          | none => simp
          | some x =>
              have known := hv x rfl
              simp [known, aberta]
      | terminado =>
          simp only [assunto, Option.map_eq_some_iff] at read
          obtain ⟨ls, aberta, rfl⟩ := read
          simp
  · next other =>
      rw [if_neg other]
      cases read
      exact hv

/-- A reader who comes late learns nothing that is not so. -/
theorem Historia.segue_foldlM {tipo : Recurso} {c : String} {h h' : Historia R}
    {as : List (Aviso R)} {v : Option (Option (List (Licitacao R)))}
    (read : as.foldlM (Historia.le tipo c) h = some h') (hv : ∀ x ∈ v, x = h.aberta) :
    ∀ x ∈ as.foldl (Historia.segue tipo c) v, x = h'.aberta := by
  induction as generalizing h v with
  | nil =>
      cases read
      exact hv
  | cons a as ih =>
      rw [List.foldlM_cons, Option.bind_eq_bind, Option.bind_eq_some_iff] at read
      obtain ⟨m, first, later⟩ := read
      exact ih later (Historia.segue_le first hv)

/-- The notice is about the auctions, or the emissions, of `c`. -/
def Exchange.Aviso.sobre (tipo : Recurso) (c : String) (a : Aviso R) : Bool :=
  a.tipo = tipo ∧ a.empresa = c

theorem Historia.foldlM_sobre {tipo : Recurso} {c : String} (as : List (Aviso R))
    (h : Historia R) :
    as.foldlM (Historia.le tipo c) h = (as.filter (Aviso.sobre tipo c)).foldlM
      (Historia.le tipo c) h := by
  induction as generalizing h with
  | nil => rfl
  | cons a as ih =>
      by_cases about : a.tipo = tipo ∧ a.empresa = c
      · rw [List.filter_cons_of_pos (by simpa [Aviso.sobre] using about), List.foldlM_cons,
          List.foldlM_cons]
        congr 1
        funext h'
        exact ih h'
      · have other : h.le tipo c a = some h := if_neg about
        rw [List.filter_cons_of_neg (by simpa [Aviso.sobre] using about), List.foldlM_cons, other]
        exact ih h

def Exchange.Aviso.delimita (a : Aviso R) : Bool :=
  match a.assunto with
  | .comecou => true
  | .licitacao _ => false
  | .terminado => true

theorem Historia.isSome_segue {tipo : Recurso} {c : String} {as : List (Aviso R)}
    {v : Option (Option (List (Licitacao R)))}
    (known : v.isSome ∨ ∃ a ∈ as, a.sobre tipo c ∧ a.delimita) :
    (as.foldl (Historia.segue tipo c) v).isSome := by
  induction as generalizing v with
  | nil => simpa using known
  | cons a as ih =>
      rw [List.foldl_cons]
      refine ih ?_
      cases known with
      | inl already =>
          refine .inl ?_
          unfold Historia.segue
          split
          · cases a.assunto <;> simp [already]
          · exact already
      | inr later =>
          obtain ⟨b, hb, about, limit⟩ := later
          cases List.mem_cons.1 hb with
          | inr rest => exact .inr ⟨b, rest, about, limit⟩
          | inl here =>
              subst here
              refine .inl ?_
              simp only [Aviso.sobre, decide_eq_true_eq] at about
              rw [Historia.segue, if_pos about]
              cases subject : b.assunto with
              | comecou => rfl
              | licitacao l => simp [Aviso.delimita, subject] at limit
              | terminado => rfl

variable [JavaFloat R] {tipo : Recurso} {c : String} {s s' : Sistema R} {l : Passo R}
  {r : Resultado} {a : Aviso R}

inductive Exchange.Passo.Avisa (s : Sistema R) : Passo R → Aviso R → Prop
  | licitar {leilao : Leilao R} (amb : Ambiente) (c investidor : String) (quantia : Int32)
      (juro : R) (aberto : s.leiloes c = some leilao) :
      Avisa s (.pedido amb (.licitar c investidor quantia juro))
        ⟨.leilao, c, .licitacao ⟨investidor, juro, quantia⟩⟩
  | emprestimo {emissao : Emissao R} (amb : Ambiente) (c investidor : String) (quantia : Int32)
      (corre : s.emissoes c = some emissao) :
      Avisa s (.pedido amb (.emprestimo c investidor quantia))
        ⟨.emissao, c, .licitacao (.semTaxa investidor quantia)⟩
  | emissao (amb : Ambiente) (c : String) (quantia : Int32) (hosted : (s.empresas c).isSome) :
      Avisa s (.pedido amb (.emissao c quantia)) ⟨.emissao, c, .comecou⟩
  | leilao (amb : Ambiente) (c : String) (quantia : Int32) (juro : R)
      (hosted : (s.empresas c).isSome) :
      Avisa s (.pedido amb (.leilao c quantia juro)) ⟨.leilao, c, .comecou⟩
  | terminaLeilao (amb : Ambiente) (thread : TerminaLeilao)
      (hosted : (s.empresas thread.empresa).isSome) :
      Avisa s (.terminaLeilao amb thread) ⟨.leilao, thread.empresa, .terminado⟩
  | terminaEmissao (amb : Ambiente) (thread : TerminaEmissao)
      (hosted : (s.empresas thread.empresa).isSome) :
      Avisa s (.terminaEmissao amb thread) ⟨.emissao, thread.empresa, .terminado⟩

omit [JavaFloat R] in
theorem mem_seHospeda {out : List (Aviso R)} (h : a ∈ Publica.seHospeda c out s) :
    a ∈ out ∧ (s.empresas c).isSome := by
  unfold Publica.seHospeda at h
  split at h
  · next hosted => exact ⟨h, hosted⟩
  · cases h

theorem avisa_of_mem (h : a ∈ l.avisos s) : l.Avisa s a := by
  cases l with
  | pedido amb p =>
      cases p with
      | licitar c investidor quantia juro =>
          simp only [Passo.avisos, Publica.dePedido, Publica.deLicitar] at h
          split at h
          · next leilao aberto =>
              split at h
              · obtain rfl := List.mem_singleton.1 h
                exact .licitar amb c investidor quantia juro aberto
              · cases h
          · cases h
      | emprestimo c investidor quantia =>
          simp only [Passo.avisos, Publica.dePedido, Publica.deEmprestimo] at h
          split at h
          · next emissao corre =>
              split at h
              · obtain rfl := List.mem_singleton.1 h
                exact .emprestimo amb c investidor quantia corre
              · cases h
          · cases h
      | emissao c quantia =>
          simp only [Passo.avisos, Publica.dePedido, Publica.deEmissao] at h
          split at h
          · next empresa found =>
              split at h
              · obtain rfl := List.mem_singleton.1 h
                exact .emissao amb c quantia (by rw [found]; rfl)
              · cases h
          · cases h
      | leilao c quantia juro =>
          simp only [Passo.avisos, Publica.dePedido, Publica.deLeilao] at h
          split at h
          · cases h
          · split at h
            · obtain ⟨mem, hosted⟩ := mem_seHospeda h
              obtain rfl := List.mem_singleton.1 mem
              exact .leilao amb c quantia juro hosted
            · cases h
      | outro => cases h
  | terminaLeilao amb thread =>
      simp only [Passo.avisos, Publica.deTerminaLeilao] at h
      split at h
      · obtain ⟨mem, hosted⟩ := mem_seHospeda h
        obtain rfl := List.mem_singleton.1 mem
        exact .terminaLeilao amb thread hosted
      · cases h
  | terminaEmissao amb thread =>
      simp only [Passo.avisos, Publica.deTerminaEmissao] at h
      split at h
      · obtain ⟨mem, hosted⟩ := mem_seHospeda h
        obtain rfl := List.mem_singleton.1 mem
        exact .terminaEmissao amb thread hosted
      · cases h

theorem Exchange.Passo.Avisa.empresa (h : l.Avisa s a) : l.empresa = some a.empresa := by
  cases h <;> rfl

theorem Exchange.Passo.Avisa.semTaxa (h : l.Avisa s a) : a.SemTaxa := by
  intro tipo l bid
  cases h with
  | emprestimo _ _ _ _ _ =>
      cases bid
      rfl
  | licitar _ _ _ _ _ _ => cases tipo
  | _ => cases bid

omit [JavaFloat R] in
@[simp] theorem Ficha.historia_relata (f : Ficha R) (amb : Ambiente)
    (g : Directory.Empresa R → Directory.Empresa R) :
    (f.relata amb g).historia tipo = f.historia tipo := by
  cases tipo <;> simp [historia]

section Hosted

open Publica (deLicitar deEmprestimo deEmissao deLeilao deTerminaLeilao deTerminaEmissao
  dePedido seHospeda)

variable [Gson R] {empresa : Empresa R} {amb : Ambiente} {investidor : String} {quantia : Int32}
  {juro : R}

/-- Notices that lead a reader from what was so before a program to what is so after it. -/
def Conta {α : Type} (tipo : Recurso) (c : String) (s : Sistema R) (avisos : List (Aviso R))
    (x : EStateM.Result Excecao (Sistema R) α) : Prop :=
  avisos.foldlM (Historia.le tipo c) ((s.ficha c).historia tipo) =
    some (((Java.state x).ficha c).historia tipo)

omit [JavaFloat R] in
@[simp] theorem historia_relata (g : Directory.Empresa R → Directory.Empresa R) :
    ((s.relata amb c g).ficha c).historia tipo = (s.ficha c).historia tipo := by
  rw [Sistema.relata_ficha_self, Ficha.historia_relata]

theorem conta_licitar (he : s.empresas c = some empresa) :
    Conta tipo c s (deLicitar c investidor quantia juro s)
      ((licitar amb c investidor quantia juro).run s) := by
  by_cases ha : ∃ leilao, s.leiloes c = some leilao ∧ leilao.Aceita quantia juro
  · obtain ⟨leilao, hl, ha⟩ := ha
    have sent : deLicitar c investidor quantia juro s =
        [⟨.leilao, c, .licitacao ⟨investidor, juro, quantia⟩⟩] := by
      simp [deLicitar, hl, ha.1, ha.2]
    rw [Conta, sent, licitar_aceita hl ha]
    cases hf : JavaFloat.isFinite juro <;>
      simp only [he, if_true, Bool.false_eq_true, if_false, Java.state_ok, Java.state_error,
        historia_relata] <;>
      cases tipo <;> simp [Historia.le, Ficha.historia, Sistema.ficha, hl]
  · have silent : deLicitar c investidor quantia juro s = [] := by
      rw [deLicitar]
      cases hl : s.leiloes c with
      | none => rfl
      | some leilao => simpa [hl, Leilao.Aceita] using ha
    rw [Conta, silent, licitar_rejeita (by simpa using ha)]
    rfl

theorem conta_emprestimo (he : s.empresas c = some empresa) :
    Conta tipo c s (deEmprestimo c investidor quantia s)
      ((emprestimo amb c investidor quantia).run s) := by
  by_cases ha : s.emissoes c = none ∨ quantia % 100 ≠ 0
  · have silent : deEmprestimo c investidor quantia s = [] := by
      rw [deEmprestimo]
      cases hl : s.emissoes c with
      | none => rfl
      | some emissao => simpa [hl] using ha
    rw [Conta, silent, emprestimo_rejeita ha]
    rfl
  · rw [not_or, not_not, ← ne_eq, Option.ne_none_iff_exists'] at ha
    obtain ⟨⟨emissao, hl⟩, multiplo⟩ := ha
    have sent : deEmprestimo c investidor quantia s =
        [⟨.emissao, c, .licitacao (.semTaxa investidor quantia)⟩] := by
      simp [deEmprestimo, hl, multiplo]
    rw [Conta, sent, emprestimo_aceita hl multiplo]
    simp only [he, Java.state_ok, historia_relata]
    cases tipo <;> simp [Historia.le, Ficha.historia, Sistema.ficha, hl]

theorem conta_emissao (he : s.empresas c = some empresa) :
    Conta tipo c s (deEmissao c quantia s) ((emissao amb c quantia).run s) := by
  by_cases ha : empresa.PodeEmitir quantia
  · obtain ⟨taxa, ht⟩ := Empresa.taxaEmissao_ok ha
    have sent : deEmissao c quantia s = [⟨.emissao, c, .comecou⟩] := by
      simp [deEmissao, he, ha]
    rw [Conta, sent, emissao_aceita he ha ht]
    cases hf : JavaFloat.isFinite taxa <;>
      simp only [if_true, Bool.false_eq_true, if_false, Java.state_ok, Java.state_error,
        historia_relata] <;>
      cases tipo <;> simp [Historia.le, Ficha.historia, Sistema.ficha, Emissao.novo]
  · have silent : deEmissao c quantia s = [] := by simp [deEmissao, he, ha]
    rw [Conta, silent, emissao_rejeita (by simpa [he] using ha)]
    rfl

theorem conta_leilao (he : s.empresas c = some empresa) :
    Conta tipo c s (deLeilao c quantia s) ((leilao amb c quantia juro).run s) := by
  by_cases ha : s.leiloes c = none ∧ quantia % 1000 = 0
  · have sent : deLeilao c quantia s = [⟨.leilao, c, .comecou⟩] := by
      simp [deLeilao, seHospeda, he, ha]
    rw [Conta, sent, leilao_aceita ha.1 ha.2]
    cases hf : JavaFloat.isFinite juro <;>
      simp only [he, if_true, Bool.false_eq_true, if_false, Java.state_ok, Java.state_error,
        historia_relata] <;>
      cases tipo <;> simp [Historia.le, Ficha.historia, Sistema.ficha, ha.1, Leilao.novo]
  · have silent : deLeilao c quantia s = [] := by
      rw [deLeilao]
      cases hl : s.leiloes c with
      | none =>
          have other : ¬quantia % 1000 = 0 := by simpa [hl] using ha
          simp [other]
      | some _ => rfl
    rw [Conta, silent, leilao_rejeita (by tauto)]
    rfl

theorem conta_terminaLeilao {thread : TerminaLeilao}
    (he : s.empresas thread.empresa = some empresa) :
    Conta tipo thread.empresa s (deTerminaLeilao thread s) ((thread.run amb).run s) := by
  cases hl : s.leiloes thread.empresa with
  | none =>
      have silent : deTerminaLeilao thread s = [] := by rw [deTerminaLeilao, hl]
      rw [Conta, silent, terminaLeilao_nulo hl]
      cases tipo <;> simp [Ficha.historia, Sistema.ficha, hl]
  | some leilao =>
      have sent : deTerminaLeilao thread s = [⟨.leilao, thread.empresa, .terminado⟩] := by
        simp [deTerminaLeilao, seHospeda, hl, he]
      rw [Conta, sent, terminaLeilao_run hl]
      cases hf : (leilao.termina thread.empresa thread.idL).2.finito <;>
        simp only [he, hf, if_true, Bool.false_eq_true, if_false, Java.state_ok,
          Java.state_error, historia_relata] <;>
        cases tipo <;> simp [Historia.le, Ficha.historia, Sistema.ficha, hl, he]

theorem conta_terminaEmissao {thread : TerminaEmissao}
    (he : s.empresas thread.empresa = some empresa) :
    Conta tipo thread.empresa s (deTerminaEmissao thread s) ((thread.run amb).run s) := by
  cases hl : s.emissoes thread.empresa with
  | none =>
      have silent : deTerminaEmissao thread s = [] := by rw [deTerminaEmissao, hl]
      rw [Conta, silent, terminaEmissao_nulo hl]
      cases tipo <;> simp [Ficha.historia, Sistema.ficha, hl]
  | some emissao =>
      have sent : deTerminaEmissao thread s = [⟨.emissao, thread.empresa, .terminado⟩] := by
        simp [deTerminaEmissao, seHospeda, hl, he]
      rw [Conta, sent, terminaEmissao_run hl]
      simp only [he, Java.state_ok, historia_relata]
      cases tipo <;> simp [Historia.le, Ficha.historia, Sistema.ficha, hl, he]

theorem conta_atende (he : s.empresas c = some empresa) {p : Pedido R}
    (about : (Passo.pedido amb p).empresa = some c) :
    Conta tipo c s (dePedido p s) ((atende amb p).run s) := by
  cases p with
  | licitar d investidor quantia juro =>
      cases about
      exact conta_licitar he
  | emprestimo d investidor quantia =>
      cases about
      exact conta_emprestimo he
  | emissao d quantia =>
      cases about
      exact conta_emissao he
  | leilao d quantia juro =>
      cases about
      exact conta_leilao he
  | outro => cases about

omit [JavaFloat R] in
theorem foldlM_alheios {as : List (Aviso R)} (h : ∀ a ∈ as, a.empresa ≠ c) (lido : Historia R) :
    as.foldlM (Historia.le tipo c) lido = some lido := by
  induction as with
  | nil => rfl
  | cons a as ih =>
      have other : lido.le tipo c a = some lido :=
        if_neg fun both => h a List.mem_cons_self both.2
      rw [List.foldlM_cons, other]
      exact ih fun b hb => h b (List.mem_cons_of_mem a hb)

omit [JavaFloat R] [Gson R] in
theorem Conta.of_corre {avisos : List (Aviso R)}
    {x : EStateM.Result Excecao (Sistema R) Unit} (told : Conta tipo c s avisos x)
    (hx : Sistema.corre x = (r, s')) :
    avisos.foldlM (Historia.le tipo c) ((s.ficha c).historia tipo) =
      some ((s'.ficha c).historia tipo) := by
  cases x <;> cases hx <;> exact told

/-- A reader who knows what is so about a hosted company knows it after the next step. -/
theorem conta_passa (he : s.empresas c = some empresa) (h : s.Passa l r s') :
    (l.avisos s).foldlM (Historia.le tipo c) ((s.ficha c).historia tipo) =
      some ((s'.ficha c).historia tipo) := by
  by_cases about : l.empresa = some c
  · cases l with
    | pedido amb p =>
        have told : Conta tipo c s _ _ := conta_atende he about
        simp only [Sistema.Passa, Sistema.proximo, Option.ite_none_right_eq_some] at h
        cases hx : (atende amb p).run s <;> rw [hx] at h told <;> cases h.2 <;> exact told
    | terminaLeilao amb thread =>
        cases about
        simp only [Sistema.Passa, Sistema.proximo, Option.ite_none_right_eq_some,
          Option.some.injEq] at h
        have started : (Sistema.ficha { s with terminaLeiloes := s.terminaLeiloes.erase thread }
            thread.empresa).historia tipo = (s.ficha thread.empresa).historia tipo := by
          cases tipo <;> rfl
        rw [← started]
        exact (conta_terminaLeilao (s := { s with
          terminaLeiloes := s.terminaLeiloes.erase thread }) he).of_corre h.2
    | terminaEmissao amb thread =>
        cases about
        simp only [Sistema.Passa, Sistema.proximo, Option.ite_none_right_eq_some,
          Option.some.injEq] at h
        have started : (Sistema.ficha { s with
            terminaEmissoes := s.terminaEmissoes.erase thread } thread.empresa).historia tipo =
            (s.ficha thread.empresa).historia tipo := by
          cases tipo <;> rfl
        rw [← started]
        exact (conta_terminaEmissao (s := { s with
          terminaEmissoes := s.terminaEmissoes.erase thread }) he).of_corre h.2
  · have spared := Sistema.passa_poupa h about
    have others : ∀ a ∈ l.avisos s, a.empresa ≠ c := by
      rintro a ha rfl
      exact about (avisa_of_mem ha).empresa
    rw [foldlM_alheios others, spared.ficha]
    cases tipo <;> rfl

end Hosted

/-! ### Runs -/

section Runs

variable [Gson R] {nomes registadas : List String} {e e' : Estacao R}
  {t : List (Runs.Transition (Estacao R) (Passo R) Resultado)}

/-- What an exchange has sent is about the hosted companies, and it tells a reader what is so about
each of them. -/
structure Contada (nomes : List String) (e : Estacao R) : Prop where
  hospeda : ∀ c ∈ nomes, (e.1.empresas c).isSome
  alheia : ∀ c ∉ nomes, e.1.empresas c = none
  ausente : e.1.vivo = true → ∀ c ∉ nomes, e.1.Ausente c
  avisos : ∀ a ∈ e.2, a.empresa ∈ nomes ∧ a.SemTaxa
  lidos : ∀ c ∈ nomes, ∀ tipo,
    e.2.foldlM (Historia.le tipo c) {} = some ((e.1.ficha c).historia tipo)

omit [Gson R] in
theorem contada_inicial :
    Contada nomes (Estacao.inicial nomes registadas : Estacao R) where
  hospeda c hc := by simp [Estacao.inicial, Sistema.inicial, hc]
  alheia c hc := if_neg hc
  ausente _ c hc := ⟨if_neg hc, rfl, rfl⟩
  avisos a ha := (List.not_mem_nil ha).elim
  lidos c hc tipo := by
    rw [Estacao.inicial, inicial_ficha hc]
    cases tipo <;> rfl

omit [Gson R] in
/-- After an exception there may be an auction of a company that is not hosted, but requests are
no longer answered, and the thread of that auction stops before it sends. -/
theorem Contada.hospedada (h : Contada nomes e) (sends : l.Avisa e.1 a)
    (answers : ∀ amb p, l = .pedido amb p → e.1.vivo = true) : a.empresa ∈ nomes := by
  by_contra outside
  have unknown := h.alheia _ outside
  have absent (vivo : e.1.vivo = true) := h.ausente vivo _ outside
  cases sends with
  | licitar amb c investidor quantia juro aberto =>
      rw [(absent (answers _ _ rfl)).leilao] at aberto
      cases aberto
  | emprestimo amb c investidor quantia corre =>
      rw [(absent (answers _ _ rfl)).emissao] at corre
      cases corre
  | _ => simp_all

theorem Contada.passa (h : Contada nomes e) (step : e.Passa l r e') :
    Contada nomes e' := by
  obtain ⟨step, sent⟩ := Estacao.passa_iff.1 step
  constructor
  · intro c hc
    exact Sistema.passa_hospeda (h.hospeda c hc) step
  · intro c hc
    have before : e.1.Alheia c (e.1.diretorio c) := ⟨h.alheia c hc, rfl⟩
    exact (before.passa step).empresa
  · intro vivo c hc
    exact Sistema.passa_ausente (h.ausente (Sistema.passa_vivo step vivo) c hc) step vivo
  · intro a ha
    rw [sent, List.mem_append] at ha
    cases ha with
    | inl old => exact h.avisos a old
    | inr new =>
        have sends := avisa_of_mem new
        refine ⟨h.hospedada sends ?_, sends.semTaxa⟩
        rintro amb p rfl
        exact (Sistema.passa_pedido step).1
  · intro c hc tipo
    have hosted := (Option.some_get (h.hospeda c hc)).symm
    rw [sent, List.foldlM_append, h.lidos c hc tipo]
    exact conta_passa hosted step

/-- The notices of a run. -/
theorem notices (h : Estacao.Run nomes registadas t e) :
    (∀ a ∈ e.2, a.empresa ∈ nomes) ∧ ∀ c ∈ nomes, ∀ tipo,
      e.2.foldlM (Historia.le tipo c) {} = some ((e.1.ficha c).historia tipo) := by
  have told : Contada nomes e := by
    refine Runs.Run.invariant (fun _ e => Contada nomes e) h contada_inicial ?_
    intro t e l r e' _ ih step
    exact ih.passa step
  exact ⟨fun a ha => (told.avisos a ha).1, told.lidos⟩

end Runs

theorem auctionSteps_sent : (Estacao.corrida ["CanecaLda", "SapatoLda"] Directory.nomes
    auctionSteps).isSome := by decide +kernel

/-- An auction begins, gets two bids and ends. -/
theorem notices_caneca :
    ∃ (t : List (Runs.Transition (Estacao Binary32) (Passo Binary32) Resultado))
      (e : Estacao Binary32), Estacao.Run ["CanecaLda", "SapatoLda"] Directory.nomes t e ∧
        e.2.length = 4 ∧ (∀ a ∈ e.2, a.empresa ∈ ["CanecaLda", "SapatoLda"]) ∧
          ∀ c ∈ ["CanecaLda", "SapatoLda"], ∀ tipo,
            e.2.foldlM (Historia.le tipo c) {} = some ((e.1.ficha c).historia tipo) := by
  have run := Estacao.run_corrida auctionSteps_sent
  exact ⟨_, _, run, by decide +kernel, notices run⟩

end PeerLanding
