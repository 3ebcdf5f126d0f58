import Mathlib.Data.Set.Insert
import PeerLanding.Frame
import PeerLanding.Identity

/-! What the exchange and the Directory have about one company at a time, as `Quadro`, and what a
request or a settlement thread makes of it when all its calls get through. Settlement threads that
have not run are a set here, since nothing depends on the order of the list. -/

namespace PeerLanding

open Exchange

variable {R : Type}

@[ext] structure Quadro (R : Type) where
  empresa : Option (Empresa R)
  leilao : Option (Leilao R)
  emissao : Option (Emissao R)
  terminaLeiloes : Set TerminaLeilao
  terminaEmissoes : Set TerminaEmissao
  registo : Option (Directory.Empresa R)

/-- How a program about a company ends, what it leaves of the company and the next reference. -/
structure Desfecho (R : Type) where
  resultado : Resultado
  quadro : Quadro R
  novaRef : Nat

namespace Quadro

def relata (q : Quadro R) (g : Directory.Empresa R → Directory.Empresa R) : Quadro R :=
  { q with registo := q.registo.map g }

variable [JavaFloat R]

def aposLicitar (investidor : String) (quantia : Int32) (juro : R) (n : Nat) (q : Quadro R) :
    Desfecho R :=
  match q.leilao with
  | none => ⟨.resposta false, q, n⟩
  | some leilao =>
      if leilao.Aceita quantia juro then
        let q' := { q with leilao := some (leilao.comLicitacao ⟨investidor, juro, quantia⟩) }
        match q.empresa with
        | none => ⟨.excecao .nullPointer, q', n⟩
        | some empresa =>
            if JavaFloat.isFinite juro then
              ⟨.resposta true, q'.relata fun registo =>
                registo.noLeilao empresa.historicoLeiloes.length (Directory.Leilao.recebe
                  ⟨leilao.licitacoes.length, investidor, juro, quantia⟩), n⟩
            else ⟨.excecao .illegalArgument, q', n⟩
      else ⟨.resposta false, q, n⟩

def aposEmprestimo (investidor : String) (quantia : Int32) (n : Nat) (q : Quadro R) : Desfecho R :=
  match q.emissao with
  | none => ⟨.resposta false, q, n⟩
  | some emissao =>
      if quantia % 100 = 0 then
        let q' := { q with emissao := some (emissao.comLicitacao (.semTaxa investidor quantia)) }
        match q.empresa with
        | none => ⟨.excecao .nullPointer, q', n⟩
        | some empresa =>
            ⟨.resposta true, q'.relata fun registo =>
              registo.naEmissao empresa.historicoEmissoes.length (Directory.Emissao.recebe
                ⟨emissao.licitacoes.length, investidor, JavaFloat.zero, quantia⟩), n⟩
      else ⟨.resposta false, q, n⟩

def aposEmissao (agora : LocalDateTime) (c : String) (quantia : Int32) (n : Nat) (q : Quadro R) :
    Desfecho R :=
  match q.empresa with
  | none => ⟨.resposta false, q, n⟩
  | some empresa =>
      if empresa.PodeEmitir quantia then
        match empresa.taxaEmissao with
        | .error e => ⟨.excecao e, q, n⟩
        | .ok taxa =>
            let idL := empresa.historicoEmissoes.length
            let q' := { q with
              emissao := some (.novo n taxa quantia c agora)
              terminaEmissoes := insert ⟨c, idL, n⟩ q.terminaEmissoes }
            if JavaFloat.isFinite taxa then
              ⟨.resposta true, q'.relata fun registo =>
                registo.addEmissao idL taxa quantia false [], n + 1⟩
            else ⟨.excecao .illegalArgument, q', n + 1⟩
      else ⟨.resposta false, q, n⟩

def aposLeilao (agora agoraDiretorio : LocalDateTime) (c : String) (quantia : Int32) (juro : R)
    (n : Nat) (q : Quadro R) : Desfecho R :=
  if q.leilao = none ∧ quantia % 1000 = 0 then
    let q' := { q with leilao := some (.novo n juro quantia c agora) }
    match q.empresa with
    | none => ⟨.excecao .nullPointer, q', n + 1⟩
    | some empresa =>
        let idL := empresa.historicoLeiloes.length
        let q'' := { q' with terminaLeiloes := insert ⟨c, idL, n⟩ q.terminaLeiloes }
        if JavaFloat.isFinite juro then
          ⟨.resposta true, q''.relata fun registo =>
            registo.addLeilao idL JavaFloat.zero quantia agoraDiretorio false, n + 1⟩
        else ⟨.excecao .illegalArgument, q'', n + 1⟩
  else ⟨.resposta false, q, n⟩

def apos (agora agoraDiretorio : LocalDateTime) (n : Nat) (q : Quadro R) :
    Pedido R → Desfecho R
  | .licitar _ investidor quantia juro => q.aposLicitar investidor quantia juro n
  | .emprestimo _ investidor quantia => q.aposEmprestimo investidor quantia n
  | .emissao c quantia => q.aposEmissao agora c quantia n
  | .leilao c quantia juro => q.aposLeilao agora agoraDiretorio c quantia juro n
  | .outro => ⟨.resposta false, q, n⟩

def aposTerminaLeilao (thread : TerminaLeilao) (n : Nat) (q : Quadro R) : Desfecho R :=
  let q' := { q with leilao := none, terminaLeiloes := q.terminaLeiloes \ {thread} }
  match q.leilao, q.empresa with
  | none, _ => ⟨.excecao .nullPointer, q', n⟩
  | some _, none => ⟨.excecao .nullPointer, q', n⟩
  | some leilao, some empresa =>
      let fim := leilao.termina thread.empresa thread.idL
      let q'' := { q' with empresa := some (empresa.comLeilao fim.1) }
      if fim.2.finito then
        ⟨.fim, q''.relata fun registo =>
          registo.noLeilao thread.idL (Directory.Leilao.encerra fim.2.recebido), n⟩
      else ⟨.excecao .illegalArgument, q'', n⟩

def aposTerminaEmissao (thread : TerminaEmissao) (n : Nat) (q : Quadro R) : Desfecho R :=
  let q' := { q with emissao := none, terminaEmissoes := q.terminaEmissoes \ {thread} }
  match q.emissao, q.empresa with
  | none, _ => ⟨.excecao .nullPointer, q', n⟩
  | some _, none => ⟨.excecao .nullPointer, q', n⟩
  | some emissao, some empresa =>
      let fim := emissao.termina thread.empresa thread.idL
      ⟨.fim, { q' with empresa := some (empresa.comEmissao fim.1) }.relata fun registo =>
        registo.naEmissao thread.idL (Directory.Emissao.encerra fim.2.recebido), n⟩

@[simp] theorem aposTerminaLeilao_novaRef (thread : TerminaLeilao) (n : Nat) (q : Quadro R) :
    (q.aposTerminaLeilao thread n).novaRef = n := by
  unfold aposTerminaLeilao
  split
  · rfl
  · rfl
  · dsimp only
    split <;> rfl

@[simp] theorem aposTerminaEmissao_novaRef (thread : TerminaEmissao) (n : Nat) (q : Quadro R) :
    (q.aposTerminaEmissao thread n).novaRef = n := by
  unfold aposTerminaEmissao
  split <;> rfl

end Quadro

def pendentes {α : Type} (empresa : α → String) (threads : List α) (c : String) : Set α :=
  {thread | thread ∈ threads ∧ empresa thread = c}

section Pendentes

variable {α : Type} {empresa : α → String} {threads : List α} {c : String} {thread : α}

theorem pendentes_append (dela : empresa thread = c) :
    pendentes empresa (threads ++ [thread]) c = insert thread (pendentes empresa threads c) := by
  ext other
  simp only [pendentes, List.mem_append, List.mem_singleton, Set.mem_ofPred_eq, Set.mem_insert_iff]
  constructor
  · rintro ⟨old | rfl, mine⟩
    · exact .inr ⟨old, mine⟩
    · exact .inl rfl
  · rintro (rfl | ⟨old, mine⟩)
    · exact ⟨.inr rfl, dela⟩
    · exact ⟨.inl old, mine⟩

theorem pendentes_erase [DecidableEq α] (distinct : threads.Nodup) :
    pendentes empresa (threads.erase thread) c = pendentes empresa threads c \ {thread} := by
  ext other
  simp only [pendentes, distinct.mem_erase_iff, Set.mem_ofPred_eq, Set.mem_sdiff,
    Set.mem_singleton_iff]
  tauto

end Pendentes

namespace Sistema

def quadro (s : Sistema R) (c : String) : Quadro R where
  empresa := s.empresas c
  leilao := s.leiloes c
  emissao := s.emissoes c
  terminaLeiloes := pendentes (·.empresa) s.terminaLeiloes c
  terminaEmissoes := pendentes (·.empresa) s.terminaEmissoes c
  registo := s.diretorio c

variable {s s' : Sistema R} {c : String} {amb : Ambiente}

theorem mem_quadro_terminaLeiloes {thread : TerminaLeilao} :
    thread ∈ (s.quadro c).terminaLeiloes ↔ thread ∈ (s.ficha c).terminaLeiloes := by
  simp [quadro, ficha, pendentes]

theorem mem_quadro_terminaEmissoes {thread : TerminaEmissao} :
    thread ∈ (s.quadro c).terminaEmissoes ↔ thread ∈ (s.ficha c).terminaEmissoes := by
  simp [quadro, ficha, pendentes]

theorem Poupa.quadro (h : Poupa c s s') : s'.quadro c = s.quadro c := by
  have same := h.ficha
  ext1
  · exact h.empresa
  · exact congrArg (·.leilao) same
  · exact congrArg (·.emissao) same
  · ext thread
    rw [mem_quadro_terminaLeiloes, mem_quadro_terminaLeiloes, same]
  · ext thread
    rw [mem_quadro_terminaEmissoes, mem_quadro_terminaEmissoes, same]
  · exact congrArg (·.registo) same

theorem quadro_relata (sent : amb.entregue = true) (s : Sistema R) (c : String)
    (g : Directory.Empresa R → Directory.Empresa R) :
    (s.relata amb c g).quadro c = (s.quadro c).relata g := by
  simp [Sistema.relata, sent, Sistema.quadro, Quadro.relata]

def desfecho {α : Type} (c : String) (fim : α → Resultado) :
    EStateM.Result Excecao (Sistema R) α → Desfecho R
  | .ok a s' => ⟨fim a, s'.quadro c, s'.novaRef⟩
  | .error e s' => ⟨.excecao e, s'.quadro c, s'.novaRef⟩

section Programas

variable [JavaFloat R] [Gson R] {quantia : Int32} {juro : R}

theorem desfecho_licitar (sent : amb.entregue = true) (c investidor : String) :
    desfecho c .resposta ((licitar amb c investidor quantia juro).run s) =
      (s.quadro c).aposLicitar investidor quantia juro s.novaRef := by
  unfold Quadro.aposLicitar
  cases hl : s.leiloes c with
  | none => simp [licitar_rejeita, hl, desfecho, quadro]
  | some leilao =>
      by_cases ha : leilao.Aceita quantia juro
      · rw [licitar_aceita hl ha]
        cases he : s.empresas c with
        | none => simp [desfecho, quadro, hl, he, ha]
        | some empresa =>
            cases hf : JavaFloat.isFinite juro <;>
              simp [desfecho, quadro_relata sent, relata_novaRef] <;>
              simp [quadro, hl, he, ha]
      · simp [licitar_rejeita, hl, ha, desfecho, quadro]

theorem desfecho_emprestimo (sent : amb.entregue = true) (c investidor : String) :
    desfecho c .resposta ((emprestimo amb c investidor quantia).run s) =
      (s.quadro c).aposEmprestimo investidor quantia s.novaRef := by
  unfold Quadro.aposEmprestimo
  cases hl : s.emissoes c with
  | none => simp [emprestimo_rejeita, hl, desfecho, quadro]
  | some emissao =>
      by_cases ha : quantia % 100 = 0
      · rw [emprestimo_aceita hl ha]
        cases he : s.empresas c with
        | none => simp [desfecho, quadro, hl, he, ha]
        | some empresa =>
            simp only [desfecho, quadro_relata sent, relata_novaRef]
            simp [quadro, hl, he, ha]
      · simp [emprestimo_rejeita, hl, ha, desfecho, quadro]

theorem desfecho_emissao (sent : amb.entregue = true) (c : String) :
    desfecho c .resposta ((emissao amb c quantia).run s) =
      (s.quadro c).aposEmissao amb.agora c quantia s.novaRef := by
  unfold Quadro.aposEmissao
  cases he : s.empresas c with
  | none => simp [emissao_rejeita, he, desfecho, quadro]
  | some empresa =>
      by_cases ha : empresa.PodeEmitir quantia
      · obtain ⟨taxa, ht⟩ := Empresa.taxaEmissao_ok ha
        rw [emissao_aceita he ha ht]
        cases hf : JavaFloat.isFinite taxa <;>
          simp [desfecho, quadro_relata sent, relata_novaRef] <;>
          simp [quadro, he, ha, ht, hf, pendentes_append]
      · simp [emissao_rejeita, he, ha, desfecho, quadro]

theorem desfecho_leilao (sent : amb.entregue = true) (c : String) :
    desfecho c .resposta ((leilao amb c quantia juro).run s) =
      (s.quadro c).aposLeilao amb.agora amb.agoraDiretorio c quantia juro s.novaRef := by
  unfold Quadro.aposLeilao
  by_cases ha : s.leiloes c = none ∧ quantia % 1000 = 0
  · rw [leilao_aceita ha.1 ha.2]
    cases he : s.empresas c with
    | none => simp [desfecho, quadro, he, ha]
    | some empresa =>
        cases hf : JavaFloat.isFinite juro <;>
          simp [desfecho, quadro_relata sent, relata_novaRef] <;>
          simp [quadro, he, ha, pendentes_append]
  · rw [leilao_rejeita (by tauto)]
    simp [desfecho, quadro, ha]

/-- A request about `c` ends for the whole exchange as it ends for `c`. -/
theorem desfecho_atende (sent : amb.entregue = true) {p : Pedido R}
    (about : (Passo.pedido amb p).empresa = some c) :
    desfecho c .resposta ((atende amb p).run s) =
      (s.quadro c).apos amb.agora amb.agoraDiretorio s.novaRef p := by
  cases p with
  | licitar d investidor quantia juro =>
      cases about
      exact desfecho_licitar sent c investidor
  | emprestimo d investidor quantia =>
      cases about
      exact desfecho_emprestimo sent c investidor
  | emissao d quantia =>
      cases about
      exact desfecho_emissao sent c
  | leilao d quantia juro =>
      cases about
      exact desfecho_leilao sent c
  | outro => cases about

theorem desfecho_terminaLeilao (sent : amb.entregue = true) {thread : TerminaLeilao}
    (distinct : s.terminaLeiloes.Nodup) :
    desfecho thread.empresa (fun _ => .fim) ((thread.run amb).run
        { s with terminaLeiloes := s.terminaLeiloes.erase thread }) =
      (s.quadro thread.empresa).aposTerminaLeilao thread s.novaRef := by
  unfold Quadro.aposTerminaLeilao
  cases hl : s.leiloes thread.empresa with
  | none =>
      rw [terminaLeilao_nulo
        (s := { s with terminaLeiloes := s.terminaLeiloes.erase thread }) hl]
      simp [desfecho, quadro, hl, pendentes_erase distinct]
  | some leilao =>
      rw [terminaLeilao_run
        (s := { s with terminaLeiloes := s.terminaLeiloes.erase thread }) hl]
      cases he : s.empresas thread.empresa with
      | none => simp [desfecho, quadro, hl, he, pendentes_erase distinct]
      | some empresa =>
          cases hf : (leilao.termina thread.empresa thread.idL).2.finito <;>
            simp [desfecho, hf, quadro_relata sent, relata_novaRef] <;>
            simp [quadro, hl, he, hf, pendentes_erase distinct]

theorem desfecho_terminaEmissao (sent : amb.entregue = true) {thread : TerminaEmissao}
    (distinct : s.terminaEmissoes.Nodup) :
    desfecho thread.empresa (fun _ => .fim) ((thread.run amb).run
        { s with terminaEmissoes := s.terminaEmissoes.erase thread }) =
      (s.quadro thread.empresa).aposTerminaEmissao thread s.novaRef := by
  unfold Quadro.aposTerminaEmissao
  cases hl : s.emissoes thread.empresa with
  | none =>
      rw [terminaEmissao_nulo
        (s := { s with terminaEmissoes := s.terminaEmissoes.erase thread }) hl]
      simp [desfecho, quadro, hl, pendentes_erase distinct]
  | some emissao =>
      rw [terminaEmissao_run
        (s := { s with terminaEmissoes := s.terminaEmissoes.erase thread }) hl]
      cases he : s.empresas thread.empresa with
      | none => simp [desfecho, quadro, hl, he, pendentes_erase distinct]
      | some empresa =>
          simp only [desfecho, quadro_relata sent, relata_novaRef]
          simp [quadro, hl, he, pendentes_erase distinct]

/-- The threads that have not run were started for different objects. -/
structure Numerados (s : Sistema R) : Prop where
  leiloes : Tomadas (s.terminaLeiloes.map (·.ref)) s.novaRef
  emissoes : Tomadas (s.terminaEmissoes.map (·.ref)) s.novaRef

omit [JavaFloat R] [Gson R] in
theorem Numerados.nodup_leiloes (h : s.Numerados) : s.terminaLeiloes.Nodup :=
  h.leiloes.nodup.of_map

omit [JavaFloat R] [Gson R] in
theorem Numerados.nodup_emissoes (h : s.Numerados) : s.terminaEmissoes.Nodup :=
  h.emissoes.nodup.of_map

omit [JavaFloat R] [Gson R] in
theorem Numerados.relata (h : s.Numerados) (g : Directory.Empresa R → Directory.Empresa R) :
    (s.relata amb c g).Numerados := by
  unfold Sistema.relata
  split <;> exact ⟨h.leiloes, h.emissoes⟩

theorem atende_numerados (amb : Ambiente) (h : s.Numerados) (p : Pedido R) :
    (Java.state ((atende amb p).run s)).Numerados := by
  cases p with
  | licitar c investidor quantia juro =>
      by_cases ha : ∃ leilao, s.leiloes c = some leilao ∧ leilao.Aceita quantia juro
      · obtain ⟨leilao, hl, ha⟩ := ha
        rw [atende, licitar_aceita hl ha]
        have kept (novo : Leilao R) :
            Numerados { s with leiloes := Function.update s.leiloes c (some novo) } := ⟨h.1, h.2⟩
        cases s.empresas c with
        | none => exact kept _
        | some empresa =>
            cases JavaFloat.isFinite juro with
            | true => exact (kept _).relata _
            | false => exact kept _
      · rw [atende, licitar_rejeita (by simpa using ha)]
        exact h
  | emprestimo c investidor quantia =>
      by_cases ha : s.emissoes c = none ∨ quantia % 100 ≠ 0
      · rw [atende, emprestimo_rejeita ha]
        exact h
      · rw [not_or, not_not, ← ne_eq, Option.ne_none_iff_exists'] at ha
        obtain ⟨⟨emissao, hl⟩, multiplo⟩ := ha
        rw [atende, emprestimo_aceita hl multiplo]
        have kept (nova : Emissao R) :
            Numerados { s with emissoes := Function.update s.emissoes c (some nova) } :=
          ⟨h.1, h.2⟩
        cases s.empresas c with
        | none => exact kept _
        | some empresa => exact (kept _).relata _
  | emissao c quantia =>
      by_cases ha : ∃ empresa, s.empresas c = some empresa ∧ empresa.PodeEmitir quantia
      · obtain ⟨empresa, he, ha⟩ := ha
        obtain ⟨taxa, preco⟩ := Empresa.taxaEmissao_ok ha
        rw [atende, emissao_aceita he ha preco]
        have started (nova : Emissao R) (idL : Nat) : Numerados { s with
            novaRef := s.novaRef + 1
            emissoes := Function.update s.emissoes c (some nova)
            terminaEmissoes := s.terminaEmissoes ++ [⟨c, idL, s.novaRef⟩] } :=
          ⟨h.1.mono (Nat.le_succ _), by simpa using h.2.nova⟩
        cases JavaFloat.isFinite taxa with
        | true => exact (started _ _).relata _
        | false => exact started _ _
      · rw [atende, emissao_rejeita (by simpa using ha)]
        exact h
  | leilao c quantia juro =>
      by_cases ha : s.leiloes c = none ∧ quantia % 1000 = 0
      · rw [atende, leilao_aceita ha.1 ha.2]
        have started (novo : Leilao R) (idL : Nat) : Numerados { s with
            novaRef := s.novaRef + 1
            leiloes := Function.update s.leiloes c (some novo)
            terminaLeiloes := s.terminaLeiloes ++ [⟨c, idL, s.novaRef⟩] } :=
          ⟨by simpa using h.1.nova, h.2.mono (Nat.le_succ _)⟩
        cases s.empresas c with
        | none => exact ⟨h.1.mono (Nat.le_succ _), h.2.mono (Nat.le_succ _)⟩
        | some empresa =>
            cases JavaFloat.isFinite juro with
            | true => exact (started _ _).relata _
            | false => exact started _ _
      · rw [atende, leilao_rejeita (by tauto)]
        exact h
  | outro => exact h

theorem terminaLeilao_numerados (h : s.Numerados) (thread : TerminaLeilao) :
    (Java.state ((thread.run amb).run s)).Numerados := by
  cases hl : s.leiloes thread.empresa with
  | none =>
      rw [terminaLeilao_nulo hl]
      exact ⟨h.1, h.2⟩
  | some leilao =>
      rw [terminaLeilao_run hl]
      have kept (nova : Empresa R) : Numerados { s with
          leiloes := Function.update s.leiloes thread.empresa none
          empresas := Function.update s.empresas thread.empresa (some nova) } :=
        ⟨h.1, h.2⟩
      cases s.empresas thread.empresa with
      | none => exact ⟨h.1, h.2⟩
      | some empresa =>
          dsimp only
          split_ifs
          · exact (kept _).relata _
          · exact kept _

theorem terminaEmissao_numerados (h : s.Numerados) (thread : TerminaEmissao) :
    (Java.state ((thread.run amb).run s)).Numerados := by
  cases hl : s.emissoes thread.empresa with
  | none =>
      rw [terminaEmissao_nulo hl]
      exact ⟨h.1, h.2⟩
  | some emissao =>
      rw [terminaEmissao_run hl]
      have kept (nova : Empresa R) : Numerados { s with
          emissoes := Function.update s.emissoes thread.empresa none
          empresas := Function.update s.empresas thread.empresa (some nova) } :=
        ⟨h.1, h.2⟩
      cases s.empresas thread.empresa with
      | none => exact ⟨h.1, h.2⟩
      | some empresa => exact (kept _).relata _

theorem passa_numerados {l : Passo R} {r : Resultado} (h : s.Numerados) (step : s.Passa l r s') :
    s'.Numerados := by
  rcases passa_programa step with
    ⟨amb, p, vivo, rfl, rfl⟩ | ⟨amb, thread, rfl, rfl⟩ | ⟨amb, thread, rfl, rfl⟩
  · obtain ⟨leiloes, emissoes⟩ := atende_numerados amb h p
    exact ⟨leiloes, emissoes⟩
  · have left : Numerados { s with terminaLeiloes := s.terminaLeiloes.erase thread } :=
      ⟨h.leiloes.sublist (List.erase_sublist.map _), h.emissoes⟩
    exact terminaLeilao_numerados left thread
  · have left : Numerados { s with terminaEmissoes := s.terminaEmissoes.erase thread } :=
      ⟨h.leiloes, h.emissoes.sublist (List.erase_sublist.map _)⟩
    exact terminaEmissao_numerados left thread

/-- The step that answers a request about `c`, from what `c` is before it. -/
theorem passa_pedido_apos (amb : Ambiente) (vivo : s.vivo = true) (sent : amb.entregue = true)
    {p : Pedido R} (about : (Passo.pedido amb p).empresa = some c) {d : Desfecho R}
    (ends : (s.quadro c).apos amb.agora amb.agoraDiretorio s.novaRef p = d) :
    ∃ s', s.Passa (.pedido amb p) d.resultado s' ∧ s'.quadro c = d.quadro ∧
      s'.novaRef = d.novaRef := by
  subst ends
  rw [← desfecho_atende sent about]
  simp only [Passa, proximo, vivo, if_true]
  cases (atende amb p).run s with
  | ok sucesso s' => exact ⟨s', rfl, rfl, rfl⟩
  | error e s' => exact ⟨{ s' with vivo := false }, rfl, rfl, rfl⟩

theorem passa_terminaLeilao_apos (amb : Ambiente) (sent : amb.entregue = true)
    (distinct : s.terminaLeiloes.Nodup) {thread : TerminaLeilao} (por : thread ∈ s.terminaLeiloes)
    {d : Desfecho R}
    (ends : (s.quadro thread.empresa).aposTerminaLeilao thread s.novaRef = d) :
    ∃ s', s.Passa (.terminaLeilao amb thread) d.resultado s' ∧
      s'.quadro thread.empresa = d.quadro ∧ s'.novaRef = d.novaRef := by
  subst ends
  rw [← desfecho_terminaLeilao sent distinct]
  simp only [Passa, proximo, por, if_true]
  cases (thread.run amb).run { s with terminaLeiloes := s.terminaLeiloes.erase thread } with
  | ok _ s' => exact ⟨s', rfl, rfl, rfl⟩
  | error e s' => exact ⟨s', rfl, rfl, rfl⟩

theorem passa_terminaEmissao_apos (amb : Ambiente) (sent : amb.entregue = true)
    (distinct : s.terminaEmissoes.Nodup) {thread : TerminaEmissao}
    (por : thread ∈ s.terminaEmissoes) {d : Desfecho R}
    (ends : (s.quadro thread.empresa).aposTerminaEmissao thread s.novaRef = d) :
    ∃ s', s.Passa (.terminaEmissao amb thread) d.resultado s' ∧
      s'.quadro thread.empresa = d.quadro ∧ s'.novaRef = d.novaRef := by
  subst ends
  rw [← desfecho_terminaEmissao sent distinct]
  simp only [Passa, proximo, por, if_true]
  cases (thread.run amb).run { s with terminaEmissoes := s.terminaEmissoes.erase thread } with
  | ok _ s' => exact ⟨s', rfl, rfl, rfl⟩
  | error e s' => exact ⟨s', rfl, rfl, rfl⟩

end Programas

end Sistema

end PeerLanding
