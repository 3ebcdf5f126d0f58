import PeerLanding.AuctionSteps
import PeerLanding.RequestOutlines

/-! Where a settlement thread stands between two of its operations, when nothing else about the
company is half done. `q` is the company before the thread took the auction or the emission. -/

namespace PeerLanding.Threads

open Exchange

variable {R : Type} [JavaFloat R]

section Esbocos

variable (c : String) (idL : Nat) (p : Parte R) (q : Quadro R)

/-- The thread has taken the open auction, which is now `x`. -/
structure Tomado (ref fio : Nat) (leilao x : Leilao R) : Prop where
  aberto : q.leilao = some leilao
  fechado : p.leilaoAtual = none
  objeto : p.leilao ref = some x
  fora : ∀ e, p.empresa = some e → ref ∉ e.historicoLeiloes
  fiel : p.Fiel c { q with
    leilao := none
    terminaLeiloes := q.terminaLeiloes \ {⟨c, idL, fio⟩} }

def relatorio (sucesso alocou : Bool) (x : Leilao R) : RestRequest R :=
  if alocou then RestRequest.alocacao c idL false true x.licitacoes
  else RestRequest.desfecho c idL false sucesso

structure Arquivado (fio : Nat) (leilao : Leilao R) : Prop where
  aberto : q.leilao = some leilao
  fiel : ∃ empresa, q.empresa = some empresa ∧ p.Fiel c { q with
    empresa := some (empresa.comLeilao (leilao.termina c idL).1)
    leilao := none
    terminaLeiloes := q.terminaLeiloes \ {⟨c, idL, fio⟩} }

def EmTerminaLeilao.Esboco (fio : Nat) : EmTerminaLeilao R → Prop
  | .remove => p.Fiel c q
  | .soma ref => ∃ leilao, Tomado c idL p q ref fio leilao leilao
  | .ordena ref => ∃ leilao, Tomado c idL p q ref fio leilao { leilao with sucesso := true } ∧
      leilao.montanteTotal ≤ leilao.getInvestimentoTotal
  | .size ref alocados => ∃ leilao,
      Tomado c idL p q ref fio leilao { leilao with sucesso := true } ∧
      leilao.montanteTotal ≤ leilao.getInvestimentoTotal ∧ alocados = leilao.alocadas
  | .empresa ref sucesso alocou => ∃ leilao,
      Tomado c idL p q ref fio leilao (leilao.termina c idL).1 ∧
      (leilao.termina c idL).2 = relatorio c idL sucesso alocou (leilao.termina c idL).1
  | .add ref sucesso alocou => ∃ leilao,
      Tomado c idL p q ref fio leilao (leilao.termina c idL).1 ∧
      (leilao.termina c idL).2 = relatorio c idL sucesso alocou (leilao.termina c idL).1
  | .json ref sucesso alocou => ∃ leilao, Arquivado c idL p q fio leilao ∧
      p.leilao ref = some (leilao.termina c idL).1 ∧
      (leilao.termina c idL).2 = relatorio c idL sucesso alocou (leilao.termina c idL).1
  | .put data => ∃ leilao, Arquivado c idL p q fio leilao ∧
      (leilao.termina c idL).2.finito = true ∧ data = (leilao.termina c idL).2.recebido
  | .fim => False

structure Tomada (ref fio : Nat) (emissao x : Emissao R) : Prop where
  aberta : q.emissao = some emissao
  fechada : p.emissaoAtual = none
  objeto : p.emissao ref = some x
  fora : ∀ e, p.empresa = some e → ref ∉ e.historicoEmissoes
  fiel : p.Fiel c { q with
    emissao := none
    terminaEmissoes := q.terminaEmissoes \ {⟨c, idL, fio⟩} }

structure Arquivada (fio : Nat) (emissao x : Emissao R) : Prop where
  aberta : q.emissao = some emissao
  fechada : p.emissaoAtual = none
  fiel : ∃ empresa, q.empresa = some empresa ∧ p.Fiel c { q with
    empresa := some (empresa.comEmissao x)
    emissao := none
    terminaEmissoes := q.terminaEmissoes \ {⟨c, idL, fio⟩} }

/-- The object under `ref` is the newest of the history. -/
def NoFim (ref : Nat) : Prop :=
  ∃ e old, p.empresa = some e ∧ e.historicoEmissoes = old ++ [ref] ∧ ref ∉ old

def EmTerminaEmissao.Esboco (fio : Nat) : EmTerminaEmissao R → Prop
  | .remove => p.Fiel c q
  | .setSucesso ref => ∃ emissao, Tomada c idL p q ref fio emissao emissao
  | .empresa ref => ∃ emissao, Tomada c idL p q ref fio emissao { emissao with sucesso := true }
  | .add ref => ∃ emissao, Tomada c idL p q ref fio emissao { emissao with sucesso := true }
  | .soma ref => ∃ emissao, Arquivada c idL p q fio emissao { emissao with sucesso := true } ∧
      p.emissao ref = some { emissao with sucesso := true } ∧ NoFim p ref
  | .desfecho ref sucesso => ∃ emissao,
      Arquivada c idL p q fio emissao { emissao with sucesso := true } ∧
      p.emissao ref = some { emissao with sucesso := true } ∧ NoFim p ref ∧
      sucesso = decide (emissao.montanteTotal ≤ emissao.getInvestimentoTotal)
  | .json sucesso => ∃ emissao, Arquivada c idL p q fio emissao (emissao.termina c idL).1 ∧
      (emissao.termina c idL).2 = RestRequest.desfecho c idL false sucesso
  | .put data => ∃ emissao, Arquivada c idL p q fio emissao (emissao.termina c idL).1 ∧
      data = (emissao.termina c idL).2.recebido
  | .fim => False

end Esbocos

variable [Gson R] {c : String} {idL fio : Nat} {q : Quadro R} {dono : Nat → Option String}
  {m m' : Memoria R} {e : Excecao}

section TerminaLeilao

variable {em em' : EmTerminaLeilao R} {p : Parte R} {leilao : Leilao R}

omit [JavaFloat R] [Gson R] in
theorem avanca_leilao (em' : EmTerminaLeilao R) (so : m.So c dono dono m')
    (h : (m'.parte dono c).Fiel c q)
    (at' : m'.terminaLeiloes fio = some ⟨c, idL, em⟩) (ran : em' ≠ .remove) :
    m.So c dono dono (m'.poeTerminaLeilao fio ⟨c, idL, em'⟩) ∧
      ((m'.poeTerminaLeilao fio ⟨c, idL, em'⟩).parte dono c).Fiel c
        { q with terminaLeiloes := q.terminaLeiloes \ {⟨c, idL, fio⟩} } := by
  have dela := so.guardada.leiloes _ _ at'
  refine ⟨so.trans (so.guardada.so_terminaLeilao dela idL em'), ?_⟩
  rw [Memoria.parte_terminaLeiloes dela]
  exact h.segue_leilao (proprio_eq_some.2 ⟨dela, at'⟩) ran

variable {ref : Nat} {x : Leilao R}

omit [JavaFloat R] [Gson R] in
theorem Tomado.avanca (em' : EmTerminaLeilao R) (so : m.So c dono dono m')
    (h : Tomado c idL (m'.parte dono c) q ref fio leilao x)
    (at' : m'.terminaLeiloes fio = some ⟨c, idL, em⟩) (ran : em' ≠ .remove) :
    m.So c dono dono (m'.poeTerminaLeilao fio ⟨c, idL, em'⟩) ∧
      Tomado c idL ((m'.poeTerminaLeilao fio ⟨c, idL, em'⟩).parte dono c) q ref fio leilao x := by
  obtain ⟨so', fiel⟩ := avanca_leilao em' so h.fiel at' ran
  refine ⟨so', h.aberto, h.fechado, h.objeto, h.fora, ?_⟩
  simpa using fiel

omit [JavaFloat R] [Gson R] in
theorem Tomado.guarda (h : Tomado c idL p q ref fio leilao x) (x' : Leilao R) :
    Tomado c idL { p with leilao := Function.update p.leilao ref (some x') } q ref fio leilao
      x' :=
  ⟨h.aberto, h.fechado, Function.update_self .., h.fora, h.fiel.guarda_leilao h.fechado h.fora x'⟩

omit [JavaFloat R] [Gson R] in
theorem Tomado.read (h : Tomado c idL (m.parte dono c) q ref fio leilao x) :
    dono ref = some c ∧ m.leilao ref = x :=
  Memoria.parte_leilao_eq.1 h.objeto

omit [Gson R] in
theorem Arquivado.avanca (em' : EmTerminaLeilao R) (so : m.So c dono dono m')
    (h : Arquivado c idL (m'.parte dono c) q fio leilao)
    (at' : m'.terminaLeiloes fio = some ⟨c, idL, em⟩) (ran : em' ≠ .remove) :
    m.So c dono dono (m'.poeTerminaLeilao fio ⟨c, idL, em'⟩) ∧
      Arquivado c idL ((m'.poeTerminaLeilao fio ⟨c, idL, em'⟩).parte dono c) q fio leilao := by
  obtain ⟨empresa, seen, fiel⟩ := h.fiel
  obtain ⟨so', fiel'⟩ := avanca_leilao em' so fiel at' ran
  refine ⟨so', h.aberto, empresa, seen, ?_⟩
  simpa using fiel'

theorem terminaLeilao_terminaEmissoes (op : terminaLeilao c idL m em = .ok (em', m')) :
    m'.terminaEmissoes = m.terminaEmissoes := by
  cases em with
  | remove =>
      simp only [terminaLeilao] at op
      split at op <;> cases op
      rfl
  | soma ref =>
      simp only [terminaLeilao] at op
      split at op <;> cases op <;> rfl
  | size ref alocados =>
      simp only [terminaLeilao] at op
      split at op <;> cases op <;> rfl
  | empresa ref sucesso alocou =>
      obtain ⟨_, _, op⟩ := ok_of_bind op
      cases op
      rfl
  | add ref sucesso alocou =>
      obtain ⟨_, _, op⟩ := ok_of_bind op
      cases op
      rfl
  | json ref sucesso alocou =>
      obtain ⟨_, _, op⟩ := ok_of_bind op
      cases op
      rfl
  | _ =>
      cases op
      rfl

/-- The memory is where the whole thread would have left it, with `r` as its end. -/
def EncerradoLeilao (c : String) (idL fio : Nat) (q : Quadro R) (r : Resultado) (p : Parte R) :
    Prop :=
  ∀ n, (q.aposTerminaLeilao ⟨c, idL, fio⟩ n).resultado = r ∧
    p.Fiel c (q.aposTerminaLeilao ⟨c, idL, fio⟩ n).quadro

/-- Where the thread is after one more operation: further on, or at its end. -/
inductive AdianteLeilao (c : String) (idL fio : Nat) (q : Quadro R) (em' : EmTerminaLeilao R)
    (p : Parte R) : Prop
  | curso (corre : em' ≠ .fim) (ran : em' ≠ .remove) (esboco : em'.Esboco c idL p q fio)
  | fim (ends : em' = .fim) (encerrado : EncerradoLeilao c idL fio q .fim p)

theorem terminaLeilao_segue (g : m.Guardada dono)
    (at' : m.terminaLeiloes fio = some ⟨c, idL, em⟩) (corre : em ≠ .fim)
    (h : em.Esboco c idL (m.parte dono c) q fio) (op : terminaLeilao c idL m em = .ok (em', m')) :
    m.So c dono dono (m'.poeTerminaLeilao fio ⟨c, idL, em'⟩) ∧
      AdianteLeilao c idL fio q em' ((m'.poeTerminaLeilao fio ⟨c, idL, em'⟩).parte dono c) := by
  cases em with
  | remove =>
      simp only [terminaLeilao] at op
      split at op
      · next ref atual =>
          cases op
          obtain ⟨leilao, there⟩ := Option.isSome_iff_exists.1 (h.arrumada.leilaoAtual ref atual)
          have open' : q.leilao = some leilao := (h.leilao atual).symm.trans there
          have closed := h.fecha_leilao
          rw [← Memoria.parte_leiloes] at closed
          obtain ⟨so, fiel⟩ := avanca_leilao (.soma ref) (g.so_leiloes none) closed at'
            (by simp)
          refine ⟨so, .curso (by simp) (by simp) ⟨leilao, open', ?_, ?_, ?_, fiel⟩⟩
          · exact Function.update_self ..
          · exact there
          · intro e he
            exact h.arrumada.leilaoAberto ref e atual he
      · cases op
  | soma ref =>
      obtain ⟨leilao, taken⟩ := h
      obtain ⟨dela, read⟩ := taken.read
      simp only [terminaLeilao, read] at op
      split at op
      · next funded =>
          cases op
          have marked := taken.guarda { leilao with sucesso := true }
          rw [← Memoria.parte_leilao dela] at marked
          obtain ⟨so, taken'⟩ := marked.avanca (.ordena ref) (g.so_leilao dela _) at' (by simp)
          exact ⟨so, .curso (by simp) (by simp) ⟨leilao, taken', funded⟩⟩
      · next short =>
          cases op
          obtain ⟨so, taken'⟩ := taken.avanca (.empresa ref false false) g.so_refl at' (by simp)
          have ends : leilao.termina c idL = (leilao, RestRequest.desfecho c idL false false) :=
            if_neg short
          refine ⟨so, .curso (by simp) (by simp) ⟨leilao, ?_, ?_⟩⟩
          · rw [ends]
            exact taken'
          · rw [ends]
            rfl
  | ordena ref =>
      obtain ⟨leilao, taken, funded⟩ := h
      obtain ⟨dela, read⟩ := taken.read
      cases op
      obtain ⟨so, taken'⟩ := taken.avanca (.size ref _) g.so_refl at' (by simp)
      refine ⟨so, .curso (by simp) (by simp) ⟨leilao, taken', funded, ?_⟩⟩
      rw [read]
      rfl
  | size ref alocados =>
      obtain ⟨leilao, taken, funded, rfl⟩ := h
      obtain ⟨dela, read⟩ := taken.read
      simp only [terminaLeilao, read] at op
      rcases leilao.termina_cases c idL with ⟨short, _⟩ | ⟨_, all, ends⟩ | ⟨_, some', ends⟩
      · exact absurd funded short
      · rw [if_pos all] at op
        cases op
        obtain ⟨so, taken'⟩ := taken.avanca (.empresa ref true false) g.so_refl at' (by simp)
        refine ⟨so, .curso (by simp) (by simp) ⟨leilao, ?_, ?_⟩⟩
        · rw [ends]
          exact taken'
        · rw [ends]
          rfl
      · rw [if_neg some'] at op
        cases op
        have marked := taken.guarda { leilao with sucesso := true, licitacoes := leilao.alocadas }
        rw [← Memoria.parte_leilao dela] at marked
        obtain ⟨so, taken'⟩ := marked.avanca (.empresa ref true true) (g.so_leilao dela _) at'
          (by simp)
        refine ⟨so, .curso (by simp) (by simp) ⟨leilao, ?_, ?_⟩⟩
        · rw [ends]
          exact taken'
        · rw [ends]
          rfl
  | empresa ref sucesso alocou =>
      obtain ⟨leilao, taken, report⟩ := h
      obtain ⟨_, _, op⟩ := ok_of_bind op
      cases op
      obtain ⟨so, taken'⟩ := taken.avanca (.add ref sucesso alocou) g.so_refl at' (by simp)
      exact ⟨so, .curso (by simp) (by simp) ⟨leilao, taken', report⟩⟩
  | add ref sucesso alocou =>
      obtain ⟨leilao, taken, report⟩ := h
      obtain ⟨e, found, op⟩ := ok_of_bind op
      cases op
      rw [empresaDe_eq_ok] at found
      have seen := taken.fiel.empresa found
      have filed := taken.fiel.arquiva_leilao taken.fechado found taken.objeto seen
      rw [← Memoria.parte_empresas] at filed
      obtain ⟨so, filed'⟩ := Arquivado.avanca (.json ref sucesso alocou) (g.so_empresas _)
        ⟨taken.aberto, _, seen, filed⟩ at' (by simp)
      exact ⟨so, .curso (by simp) (by simp) ⟨leilao, filed', taken.objeto, report⟩⟩
  | json ref sucesso alocou =>
      obtain ⟨leilao, filed, there, report⟩ := h
      have read : m.leilao ref = (leilao.termina c idL).1 := (Memoria.parte_leilao_eq.1 there).2
      obtain ⟨data, found, op⟩ := ok_of_bind op
      cases op
      rw [read] at found
      obtain ⟨finito, sent⟩ := toJson_eq_ok.1 found
      obtain ⟨so, filed'⟩ := filed.avanca (.put data) g.so_refl at' (by simp)
      refine ⟨so, .curso (by simp) (by simp) ⟨leilao, filed', ?_, ?_⟩⟩
      · rw [report]
        exact finito
      · rw [report]
        exact sent.symm
  | put data =>
      obtain ⟨leilao, filed, finito, rfl⟩ := h
      obtain ⟨empresa, seen, fiel⟩ := filed.fiel
      cases op
      obtain ⟨nome, id⟩ := leilao.termina_rr c idL
      have call := Directory.after_putLeilaoSucesso (d := m.diretorio)
        (show (leilao.termina c idL).2.recebido.nome = some c from nome) id
      obtain ⟨so, told⟩ := g.reporta fiel call
      obtain ⟨so', told'⟩ := avanca_leilao .fim so told at' (by simp)
      refine ⟨so', .fim rfl fun n => ⟨?_, ?_⟩⟩
      · simp [Quadro.aposTerminaLeilao, filed.aberto, seen, finito]
      · simpa [Quadro.aposTerminaLeilao, filed.aberto, seen, finito, Quadro.relata] using told'
  | fim => exact absurd rfl corre

theorem terminaLeilao_falha (g : m.Guardada dono)
    (at' : m.terminaLeiloes fio = some ⟨c, idL, em⟩)
    (h : em.Esboco c idL (m.parte dono c) q fio) (op : terminaLeilao c idL m em = .error e) :
    m.So c dono dono (m.poeTerminaLeilao fio ⟨c, idL, .fim⟩) ∧
      EncerradoLeilao c idL fio q (.excecao e)
        ((m.poeTerminaLeilao fio ⟨c, idL, .fim⟩).parte dono c) := by
  have unknown {ref : Nat} {leilao x : Leilao R}
      (taken : Tomado c idL (m.parte dono c) q ref fio leilao x)
      (failed : m.empresaDe c = .error e) :
      m.So c dono dono (m.poeTerminaLeilao fio ⟨c, idL, .fim⟩) ∧
        EncerradoLeilao c idL fio q (.excecao e)
          ((m.poeTerminaLeilao fio ⟨c, idL, .fim⟩).parte dono c) := by
    obtain ⟨missing, rfl⟩ := empresaDe_eq_error.1 failed
    have seen : q.empresa = none := taken.fiel.empresa_none missing
    obtain ⟨so, taken'⟩ := taken.avanca .fim g.so_refl at' (by simp)
    refine ⟨so, fun n => ⟨?_, ?_⟩⟩
    · simp [Quadro.aposTerminaLeilao, taken.aberto, seen]
    · simpa [Quadro.aposTerminaLeilao, taken.aberto, seen] using taken'.fiel
  cases em with
  | remove =>
      simp only [terminaLeilao] at op
      split at op
      · cases op
      · next atual =>
          cases op
          have closed : q.leilao = none := h.leilaoAtual.1 atual
          have h' : (m.parte dono c).Fiel c { q with leilao := none } := by
            rw [← closed]
            exact h
          obtain ⟨so, fiel⟩ := avanca_leilao .fim g.so_refl h' at' (by simp)
          refine ⟨so, fun n => ⟨?_, ?_⟩⟩
          · simp [Quadro.aposTerminaLeilao, closed]
          · simpa [Quadro.aposTerminaLeilao, closed] using fiel
  | soma ref =>
      simp only [terminaLeilao] at op
      split at op <;> cases op
  | ordena ref => cases op
  | size ref alocados =>
      simp only [terminaLeilao] at op
      split at op <;> cases op
  | empresa ref sucesso alocou =>
      obtain ⟨leilao, taken, _⟩ := h
      exact unknown taken (error_of_bind_pure op)
  | add ref sucesso alocou =>
      obtain ⟨leilao, taken, _⟩ := h
      exact unknown taken (error_of_bind_pure op)
  | json ref sucesso alocou =>
      obtain ⟨leilao, filed, there, report⟩ := h
      have read : m.leilao ref = (leilao.termina c idL).1 := (Memoria.parte_leilao_eq.1 there).2
      obtain ⟨empresa, seen, _⟩ := filed.fiel
      have failed := error_of_bind_pure op
      rw [read] at failed
      obtain ⟨especial, rfl⟩ := toJson_eq_error.1 failed
      have infinite : (leilao.termina c idL).2.finito = false := by
        rw [report]
        exact especial
      obtain ⟨so, filed'⟩ := filed.avanca .fim g.so_refl at' (by simp)
      obtain ⟨empresa', seen', fiel⟩ := filed'.fiel
      rw [seen, Option.some.injEq] at seen'
      subst seen'
      refine ⟨so, fun n => ⟨?_, ?_⟩⟩
      · simp [Quadro.aposTerminaLeilao, filed.aberto, seen, infinite]
      · simpa [Quadro.aposTerminaLeilao, filed.aberto, seen, infinite] using fiel
  | put data => cases op
  | fim => cases op

end TerminaLeilao

section TerminaEmissao

variable {em em' : EmTerminaEmissao R} {p : Parte R} {emissao x : Emissao R} {ref : Nat}

omit [JavaFloat R] [Gson R] in
theorem avanca_emissao (em' : EmTerminaEmissao R) (so : m.So c dono dono m')
    (h : (m'.parte dono c).Fiel c q)
    (at' : m'.terminaEmissoes fio = some ⟨c, idL, em⟩) (ran : em' ≠ .remove) :
    m.So c dono dono (m'.poeTerminaEmissao fio ⟨c, idL, em'⟩) ∧
      ((m'.poeTerminaEmissao fio ⟨c, idL, em'⟩).parte dono c).Fiel c
        { q with terminaEmissoes := q.terminaEmissoes \ {⟨c, idL, fio⟩} } := by
  have dela := so.guardada.emissoes _ _ at'
  refine ⟨so.trans (so.guardada.so_terminaEmissao dela idL em'), ?_⟩
  rw [Memoria.parte_terminaEmissoes dela]
  exact h.segue_emissao (proprio_eq_some.2 ⟨dela, at'⟩) ran

omit [JavaFloat R] [Gson R] in
theorem Tomada.avanca (em' : EmTerminaEmissao R) (so : m.So c dono dono m')
    (h : Tomada c idL (m'.parte dono c) q ref fio emissao x)
    (at' : m'.terminaEmissoes fio = some ⟨c, idL, em⟩) (ran : em' ≠ .remove) :
    m.So c dono dono (m'.poeTerminaEmissao fio ⟨c, idL, em'⟩) ∧
      Tomada c idL ((m'.poeTerminaEmissao fio ⟨c, idL, em'⟩).parte dono c) q ref fio emissao
        x := by
  obtain ⟨so', fiel⟩ := avanca_emissao em' so h.fiel at' ran
  refine ⟨so', h.aberta, h.fechada, h.objeto, h.fora, ?_⟩
  simpa using fiel

omit [JavaFloat R] [Gson R] in
theorem Tomada.guarda (h : Tomada c idL p q ref fio emissao x) (x' : Emissao R) :
    Tomada c idL { p with emissao := Function.update p.emissao ref (some x') } q ref fio emissao
      x' :=
  ⟨h.aberta, h.fechada, Function.update_self .., h.fora,
    h.fiel.guarda_emissao h.fechada h.fora x'⟩

omit [JavaFloat R] [Gson R] in
theorem Tomada.read (h : Tomada c idL (m.parte dono c) q ref fio emissao x) :
    dono ref = some c ∧ m.emissao ref = x :=
  Memoria.parte_emissao_eq.1 h.objeto

omit [JavaFloat R] [Gson R] in
theorem Arquivada.avanca (em' : EmTerminaEmissao R) (so : m.So c dono dono m')
    (h : Arquivada c idL (m'.parte dono c) q fio emissao x)
    (at' : m'.terminaEmissoes fio = some ⟨c, idL, em⟩) (ran : em' ≠ .remove) :
    m.So c dono dono (m'.poeTerminaEmissao fio ⟨c, idL, em'⟩) ∧
      Arquivada c idL ((m'.poeTerminaEmissao fio ⟨c, idL, em'⟩).parte dono c) q fio emissao x := by
  obtain ⟨empresa, seen, fiel⟩ := h.fiel
  obtain ⟨so', fiel'⟩ := avanca_emissao em' so fiel at' ran
  refine ⟨so', h.aberta, h.fechada, empresa, seen, ?_⟩
  simpa using fiel'

omit [Gson R] in
/-- The flag that is set last is the outcome. -/
theorem termina_decide (emissao : Emissao R) (c : String) (idL : Int) :
    emissao.termina c idL =
      ({ emissao with
        sucesso := decide (emissao.montanteTotal ≤ emissao.getInvestimentoTotal) },
        RestRequest.desfecho c idL false
          (decide (emissao.montanteTotal ≤ emissao.getInvestimentoTotal))) := by
  have total : Emissao.getInvestimentoTotal { emissao with sucesso := true } =
      emissao.getInvestimentoTotal := rfl
  unfold Emissao.termina
  dsimp only
  rw [total]
  split_ifs with funded <;> simp [funded]

theorem terminaEmissao_threads (op : terminaEmissao c idL m em = .ok (em', m')) :
    m'.terminaLeiloes = m.terminaLeiloes ∧ m'.terminaEmissoes = m.terminaEmissoes ∧
      m'.exchange = m.exchange ∧ m'.novaRef = m.novaRef := by
  cases em with
  | remove =>
      simp only [terminaEmissao] at op
      split at op <;> cases op
      exact ⟨rfl, rfl, rfl, rfl⟩
  | empresa ref =>
      obtain ⟨_, _, op⟩ := ok_of_bind op
      cases op
      exact ⟨rfl, rfl, rfl, rfl⟩
  | add ref =>
      obtain ⟨_, _, op⟩ := ok_of_bind op
      cases op
      exact ⟨rfl, rfl, rfl, rfl⟩
  | json sucesso =>
      obtain ⟨_, _, op⟩ := ok_of_bind op
      cases op
      exact ⟨rfl, rfl, rfl, rfl⟩
  | _ =>
      cases op
      exact ⟨rfl, rfl, rfl, rfl⟩

def EncerradaEmissao (c : String) (idL fio : Nat) (q : Quadro R) (r : Resultado) (p : Parte R) :
    Prop :=
  ∀ n, (q.aposTerminaEmissao ⟨c, idL, fio⟩ n).resultado = r ∧
    p.Fiel c (q.aposTerminaEmissao ⟨c, idL, fio⟩ n).quadro

inductive AdianteEmissao (c : String) (idL fio : Nat) (q : Quadro R) (em' : EmTerminaEmissao R)
    (p : Parte R) : Prop
  | curso (corre : em' ≠ .fim) (ran : em' ≠ .remove) (esboco : em'.Esboco c idL p q fio)
  | fim (ends : em' = .fim) (encerrada : EncerradaEmissao c idL fio q .fim p)

theorem terminaEmissao_segue (g : m.Guardada dono)
    (at' : m.terminaEmissoes fio = some ⟨c, idL, em⟩) (corre : em ≠ .fim)
    (h : em.Esboco c idL (m.parte dono c) q fio) (op : terminaEmissao c idL m em = .ok (em', m')) :
    m.So c dono dono (m'.poeTerminaEmissao fio ⟨c, idL, em'⟩) ∧
      AdianteEmissao c idL fio q em'
        ((m'.poeTerminaEmissao fio ⟨c, idL, em'⟩).parte dono c) := by
  cases em with
  | remove =>
      simp only [terminaEmissao] at op
      split at op
      · next ref atual =>
          cases op
          obtain ⟨emissao, there⟩ :=
            Option.isSome_iff_exists.1 (h.arrumada.emissaoAtual ref atual)
          have open' : q.emissao = some emissao := (h.emissao atual).symm.trans there
          have closed := h.fecha_emissao
          rw [← Memoria.parte_emissoes] at closed
          obtain ⟨so, fiel⟩ := avanca_emissao (.setSucesso ref) (g.so_emissoes none) closed
            at' (by simp)
          refine ⟨so, .curso (by simp) (by simp) ⟨emissao, open', ?_, ?_, ?_, fiel⟩⟩
          · exact Function.update_self ..
          · exact there
          · intro e he
            exact h.arrumada.emissaoAberta ref e atual he
      · cases op
  | setSucesso ref =>
      obtain ⟨emissao, taken⟩ := h
      obtain ⟨dela, read⟩ := taken.read
      cases op
      have marked := taken.guarda { emissao with sucesso := true }
      rw [← Memoria.parte_emissao dela] at marked
      obtain ⟨so, taken'⟩ := marked.avanca (.empresa ref) (g.so_emissao dela _) at' (by simp)
      rw [read]
      exact ⟨so, .curso (by simp) (by simp) ⟨emissao, taken'⟩⟩
  | empresa ref =>
      obtain ⟨emissao, taken⟩ := h
      obtain ⟨_, _, op⟩ := ok_of_bind op
      cases op
      obtain ⟨so, taken'⟩ := taken.avanca (.add ref) g.so_refl at' (by simp)
      exact ⟨so, .curso (by simp) (by simp) ⟨emissao, taken'⟩⟩
  | add ref =>
      obtain ⟨emissao, taken⟩ := h
      obtain ⟨e, found, op⟩ := ok_of_bind op
      cases op
      rw [empresaDe_eq_ok] at found
      have seen := taken.fiel.empresa found
      have filed := taken.fiel.arquiva_emissao taken.fechada found taken.objeto seen
      rw [← Memoria.parte_empresas] at filed
      obtain ⟨so, filed'⟩ := Arquivada.avanca (.soma ref) (g.so_empresas _)
        ⟨taken.aberta, taken.fechada, _, seen, filed⟩ at' (by simp)
      have last : NoFim ((({ m with empresas := Function.update m.empresas c (some { e with
          historicoEmissoes := e.historicoEmissoes ++ [ref] }) } : Memoria R).poeTerminaEmissao fio
          ⟨c, idL, .soma ref⟩).parte dono c) ref :=
        ⟨_, e.historicoEmissoes, Function.update_self .., rfl, taken.fora e found⟩
      exact ⟨so, .curso (by simp) (by simp) ⟨emissao, filed', taken.objeto, last⟩⟩
  | soma ref =>
      obtain ⟨emissao, filed, there, last⟩ := h
      have read := (Memoria.parte_emissao_eq.1 there).2
      cases op
      obtain ⟨so, filed'⟩ := filed.avanca (.desfecho ref _) g.so_refl at' (by simp)
      refine ⟨so, .curso (by simp) (by simp) ⟨emissao, filed', there, last, ?_⟩⟩
      rw [read]
      rfl
  | desfecho ref sucesso =>
      obtain ⟨emissao, filed, there, ⟨e, old, he, last, fora⟩, rfl⟩ := h
      obtain ⟨dela, read⟩ := Memoria.parte_emissao_eq.1 there
      obtain ⟨empresa, seen, fiel⟩ := filed.fiel
      have ends := termina_decide emissao c idL
      cases op
      have settled := Parte.Fiel.corrige_emissao
        (q := { q with
          emissao := none
          terminaEmissoes := q.terminaEmissoes \ {⟨c, idL, fio⟩} })
        fiel filed.fechada he last fora there (emissao.termina c idL).1
      rw [← Memoria.parte_emissao dela] at settled
      obtain ⟨so, filed'⟩ := Arquivada.avanca (.json _) (g.so_emissao dela _)
        ⟨filed.aberta, filed.fechada, empresa, seen, settled⟩ at' (by simp)
      rw [ends] at so filed'
      rw [read]
      refine ⟨so, .curso (by simp) (by simp) ⟨emissao, ?_, ?_⟩⟩
      · rw [ends]
        exact filed'
      · rw [ends]
  | json sucesso =>
      obtain ⟨emissao, filed, report⟩ := h
      obtain ⟨data, found, op⟩ := ok_of_bind op
      cases op
      obtain ⟨_, sent⟩ := toJson_eq_ok.1 found
      obtain ⟨so, filed'⟩ := filed.avanca (.put data) g.so_refl at' (by simp)
      refine ⟨so, .curso (by simp) (by simp) ⟨emissao, filed', ?_⟩⟩
      rw [report]
      exact sent.symm
  | put data =>
      obtain ⟨emissao, filed, rfl⟩ := h
      obtain ⟨empresa, seen, fiel⟩ := filed.fiel
      cases op
      obtain ⟨nome, id⟩ := emissao.termina_rr c idL
      have call := Directory.after_putEmissaoSucesso (d := m.diretorio)
        (show (emissao.termina c idL).2.recebido.nome = some c from nome) id
      obtain ⟨so, told⟩ := g.reporta fiel call
      obtain ⟨so', told'⟩ := avanca_emissao .fim so told at' (by simp)
      refine ⟨so', .fim rfl fun n => ⟨?_, ?_⟩⟩
      · simp [Quadro.aposTerminaEmissao, filed.aberta, seen]
      · simpa [Quadro.aposTerminaEmissao, filed.aberta, seen, Quadro.relata] using told'
  | fim => exact absurd rfl corre

theorem terminaEmissao_falha (g : m.Guardada dono)
    (at' : m.terminaEmissoes fio = some ⟨c, idL, em⟩)
    (h : em.Esboco c idL (m.parte dono c) q fio) (op : terminaEmissao c idL m em = .error e) :
    m.So c dono dono (m.poeTerminaEmissao fio ⟨c, idL, .fim⟩) ∧
      EncerradaEmissao c idL fio q (.excecao e)
        ((m.poeTerminaEmissao fio ⟨c, idL, .fim⟩).parte dono c) := by
  have unknown {ref : Nat} {emissao x : Emissao R}
      (taken : Tomada c idL (m.parte dono c) q ref fio emissao x)
      (failed : m.empresaDe c = .error e) :
      m.So c dono dono (m.poeTerminaEmissao fio ⟨c, idL, .fim⟩) ∧
        EncerradaEmissao c idL fio q (.excecao e)
          ((m.poeTerminaEmissao fio ⟨c, idL, .fim⟩).parte dono c) := by
    obtain ⟨missing, rfl⟩ := empresaDe_eq_error.1 failed
    have seen : q.empresa = none := taken.fiel.empresa_none missing
    obtain ⟨so, taken'⟩ := taken.avanca .fim g.so_refl at' (by simp)
    refine ⟨so, fun n => ⟨?_, ?_⟩⟩
    · simp [Quadro.aposTerminaEmissao, taken.aberta, seen]
    · simpa [Quadro.aposTerminaEmissao, taken.aberta, seen] using taken'.fiel
  cases em with
  | remove =>
      simp only [terminaEmissao] at op
      split at op
      · cases op
      · next atual =>
          cases op
          have closed : q.emissao = none := h.emissaoAtual.1 atual
          have h' : (m.parte dono c).Fiel c { q with emissao := none } := by
            rw [← closed]
            exact h
          obtain ⟨so, fiel⟩ := avanca_emissao .fim g.so_refl h' at' (by simp)
          refine ⟨so, fun n => ⟨?_, ?_⟩⟩
          · simp [Quadro.aposTerminaEmissao, closed]
          · simpa [Quadro.aposTerminaEmissao, closed] using fiel
  | setSucesso ref => cases op
  | empresa ref =>
      obtain ⟨emissao, taken⟩ := h
      exact unknown taken (error_of_bind_pure op)
  | add ref =>
      obtain ⟨emissao, taken⟩ := h
      exact unknown taken (error_of_bind_pure op)
  | soma ref => cases op
  | desfecho ref sucesso => cases op
  | json sucesso =>
      have especial := (toJson_eq_error.1 (error_of_bind_pure op)).1
      rw [RestRequest.finito_desfecho] at especial
      cases especial
  | put data => cases op
  | fim => cases op

end TerminaEmissao

end PeerLanding.Threads
