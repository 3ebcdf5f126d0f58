import PeerLanding.AuctionOrder

/-! What one operation of a thread does to a company's auctions. -/

namespace PeerLanding.Threads

open Exchange

variable {R : Type} [JavaFloat R] [Gson R] {c : String} {m m' : Memoria R}

def Lance.iniciou (c : String) (e : Lance R) : Option Nat :=
  match e.label, e.pre.exchange with
  | .exchange _ _, .leilao empresa _ _ (.thread leilao _) =>
      if empresa = c then some leilao else none
  | _, _ => none

def Lance.publicou (c : String) (e : Lance R) : Option Nat :=
  match e.label, e.pre.exchange with
  | .exchange _ _, .leilao empresa _ juro (.post leilao _) =>
      if empresa = c ∧ JavaFloat.isFinite juro = true then some leilao else none
  | _, _ => none

def Lance.aceitou (c : String) (e : Lance R) : Option Nat :=
  match e.label, e.pre.exchange with
  | .exchange _ _, .aceita (.leilao empresa _ _) _ idL => if empresa = c then some idL else none
  | _, _ => none

section Registos

variable {d : Directory R} {rr : Directory.RestRequest R}

omit [JavaFloat R] [Gson R] in
theorem registos_naEmpresa {nome : Option String}
    {f : Directory.Empresa R → Except Excecao (Directory.Empresa R)}
    (keeps : ∀ e e', f e = .ok e' →
      e'.historicoLeiloes.map (·.id) = e.historicoLeiloes.map (·.id))
    (m : Memoria R) (c : String) :
    (m.chama (Directory.naEmpresa nome f)).registos c = m.registos c := by
  cases nome with
  | none => rfl
  | some nome =>
      simp only [Memoria.registos, Memoria.chama, Directory.after_naEmpresa]
      by_cases mine : c = nome
      · subst mine
        rw [Function.update_self, Option.map_map]
        refine congrArg (Option.map · _) ?_
        funext registo
        simp only [Function.comp_apply, Directory.apply]
        split
        · next ok => exact keeps _ _ ok
        · rfl
      · rw [Function.update_of_ne mine]

omit [JavaFloat R] [Gson R] in
theorem map_id_of_update {ls ls' : List (Directory.Leilao R)} {i : Int}
    {f : Directory.Leilao R → Directory.Leilao R} (keeps : ∀ l, (f l).id = l.id)
    (updated : Java.update ls i f = .ok ls') : ls'.map (·.id) = ls.map (·.id) := by
  cases i with
  | negSucc n => cases updated
  | ofNat n =>
      simp only [Java.update] at updated
      split at updated <;> cases updated
      apply List.ext_getElem?
      intro k
      rw [List.getElem?_map, List.getElem?_map, List.getElem?_modify, Option.map_eq_map,
        Option.map_map]
      by_cases here : n = k <;> simp [here, Function.comp_def, keeps]

omit [JavaFloat R] [Gson R] in
theorem registos_postLeilaoLicitacao (m : Memoria R) (c : String) :
    (m.chama (Directory.postLeilaoLicitacao rr)).registos c = m.registos c := by
  apply registos_naEmpresa
  intro e e' ok
  obtain ⟨ls, updated, ok⟩ := ok_of_bind ok
  cases ok
  refine map_id_of_update ?_ updated
  intro l
  rfl

omit [JavaFloat R] [Gson R] in
theorem registos_putLeilaoSucesso (m : Memoria R) (c : String) :
    (m.chama (Directory.putLeilaoSucesso rr)).registos c = m.registos c := by
  apply registos_naEmpresa
  intro e e' ok
  obtain ⟨ls, updated, ok⟩ := ok_of_bind ok
  cases ok
  refine map_id_of_update ?_ updated
  intro l
  rfl

omit [JavaFloat R] [Gson R] in
theorem registos_postEmissao (m : Memoria R) (c : String) :
    (m.chama (Directory.postEmissao rr)).registos c = m.registos c := by
  apply registos_naEmpresa
  intro e e' ok
  cases ok
  rfl

omit [Gson R] in
theorem registos_postEmissaoLicitacao (m : Memoria R) (c : String) :
    (m.chama (Directory.postEmissaoLicitacao rr)).registos c = m.registos c := by
  apply registos_naEmpresa
  intro e e' ok
  obtain ⟨_, _, ok⟩ := ok_of_bind ok
  cases ok
  rfl

omit [JavaFloat R] [Gson R] in
theorem registos_putEmissaoSucesso (m : Memoria R) (c : String) :
    (m.chama (Directory.putEmissaoSucesso rr)).registos c = m.registos c := by
  apply registos_naEmpresa
  intro e e' ok
  obtain ⟨_, _, ok⟩ := ok_of_bind ok
  cases ok
  rfl

omit [JavaFloat R] [Gson R] in
theorem registos_postLeilao {nome : String} (named : rr.nome = some nome)
    (agora : LocalDateTime) (m : Memoria R) (c : String) :
    (m.chama (Directory.postLeilao agora rr)).registos c =
      if nome = c then (m.registos c).map (· ++ [rr.id]) else m.registos c := by
  simp only [Memoria.registos, Memoria.chama, Directory.postLeilao, named,
    Directory.after_naEmpresa]
  by_cases mine : nome = c
  · subst mine
    simp [Function.comp_def, Directory.apply]
  · rw [Function.update_of_ne (Ne.symm mine), if_neg mine]

end Registos

/-- Nothing about auctions changes but where the exchange thread is. -/
structure Memoria.Poupa (m m' : Memoria R) : Prop where
  leiloes : m'.leiloes = m.leiloes
  historico : ∀ c, m'.historico c = m.historico c
  terminaLeiloes : m'.terminaLeiloes = m.terminaLeiloes
  novaRef : m.novaRef ≤ m'.novaRef
  hospeda : ∀ c, (m'.empresas c).isSome = (m.empresas c).isSome
  registos : ∀ c, m'.registos c = m.registos c

omit [JavaFloat R] [Gson R] in
theorem Memoria.Poupa.of_eq (empresas : m'.empresas = m.empresas) (leiloes : m'.leiloes = m.leiloes)
    (fios : m'.terminaLeiloes = m.terminaLeiloes) (novaRef : m.novaRef ≤ m'.novaRef)
    (registos : ∀ c, m'.registos c = m.registos c) : m.Poupa m' :=
  ⟨leiloes, fun c => by rw [Memoria.historico, empresas, Memoria.historico], fios, novaRef,
    fun c => by rw [empresas], registos⟩

omit [JavaFloat R] [Gson R] in
theorem Memoria.Poupa.visao (h : m.Poupa m') (c : String) :
    m'.visao c = { m.visao c with curso := m'.exchange.curso c } := by
  have fios : m'.fios c = m.fios c := by
    funext ref
    rw [Memoria.fios, h.terminaLeiloes, Memoria.fios]
  rw [Memoria.visao, h.leiloes, h.historico, fios, h.registos]
  rfl

theorem licitar_poupa {empresa investidor : String} {quantia : Int32} {juro : R} {em : EmLicitar}
    (op : licitar empresa investidor quantia juro m em = .ok m') :
    m.Poupa m' ∧ m'.exchange.curso c = .fora := by
  cases em with
  | get =>
      simp only [licitar] at op
      split at op
      · split at op <;> cases op <;> exact ⟨.of_eq rfl rfl rfl le_rfl fun _ => rfl, rfl⟩
      · cases op
        exact ⟨.of_eq rfl rfl rfl le_rfl fun _ => rfl, rfl⟩
  | add leilaoAtual =>
      cases op
      exact ⟨.of_eq rfl rfl rfl le_rfl fun _ => rfl, rfl⟩
  | empresa leilaoAtual =>
      obtain ⟨_, _, op⟩ := ok_of_bind op
      cases op
      exact ⟨.of_eq rfl rfl rfl le_rfl fun _ => rfl, rfl⟩
  | historico leilaoAtual =>
      obtain ⟨_, _, op⟩ := ok_of_bind op
      cases op
      exact ⟨.of_eq rfl rfl rfl le_rfl fun _ => rfl, rfl⟩
  | size leilaoAtual idL =>
      cases op
      exact ⟨.of_eq rfl rfl rfl le_rfl fun _ => rfl, rfl⟩
  | post leilaoAtual idL id =>
      obtain ⟨_, _, op⟩ := ok_of_bind op
      cases op
      exact ⟨.of_eq rfl rfl rfl le_rfl (registos_postLeilaoLicitacao m), rfl⟩

theorem emprestimo_poupa {empresa investidor : String} {quantia : Int32} {em : EmEmprestimo}
    (op : emprestimo empresa investidor quantia m em = .ok m') :
    m.Poupa m' ∧ m'.exchange.curso c = .fora := by
  cases em with
  | get =>
      simp only [emprestimo] at op
      split at op
      · split at op <;> cases op <;> exact ⟨.of_eq rfl rfl rfl le_rfl fun _ => rfl, rfl⟩
      · cases op
        exact ⟨.of_eq rfl rfl rfl le_rfl fun _ => rfl, rfl⟩
  | add emissaoAtual =>
      cases op
      exact ⟨.of_eq rfl rfl rfl le_rfl fun _ => rfl, rfl⟩
  | size emissaoAtual idL =>
      cases op
      exact ⟨.of_eq rfl rfl rfl le_rfl fun _ => rfl, rfl⟩
  | post emissaoAtual idL id =>
      obtain ⟨_, _, op⟩ := ok_of_bind op
      cases op
      exact ⟨.of_eq rfl rfl rfl le_rfl (registos_postEmissaoLicitacao m), rfl⟩
  | _ =>
      obtain ⟨_, _, op⟩ := ok_of_bind op
      cases op
      exact ⟨.of_eq rfl rfl rfl le_rfl fun _ => rfl, rfl⟩

theorem emissao_poupa {empresa : String} {quantia : Int32} {agora : LocalDateTime}
    {em : EmEmissao R} (op : emissao empresa quantia agora m em = .ok m') :
    m.Poupa m' ∧ m'.exchange.curso c = .fora := by
  cases em with
  | get =>
      simp only [emissao] at op
      split at op <;> cases op <;> exact ⟨.of_eq rfl rfl rfl le_rfl fun _ => rfl, rfl⟩
  | size =>
      obtain ⟨_, _, op⟩ := ok_of_bind op
      split at op <;> cases op <;> exact ⟨.of_eq rfl rfl rfl le_rfl fun _ => rfl, rfl⟩
  | lastElement =>
      obtain ⟨_, _, op⟩ := ok_of_bind op
      split at op
      · split at op <;> cases op <;> exact ⟨.of_eq rfl rfl rfl le_rfl fun _ => rfl, rfl⟩
      · cases op
  | taxa em =>
      obtain ⟨_, _, op⟩ := ok_of_bind op
      obtain ⟨fim, _, op⟩ := ok_of_bind op
      cases fim <;> cases op <;> exact ⟨.of_eq rfl rfl rfl le_rfl fun _ => rfl, rfl⟩
  | put taxaMaxima idL =>
      cases op
      exact ⟨.of_eq rfl rfl rfl (Nat.le_succ _) fun _ => rfl, rfl⟩
  | thread taxaMaxima idL novaEmissao =>
      cases op
      exact ⟨.of_eq rfl rfl rfl le_rfl fun _ => rfl, rfl⟩
  | post taxaMaxima idL novaEmissao =>
      obtain ⟨_, _, op⟩ := ok_of_bind op
      cases op
      exact ⟨.of_eq rfl rfl rfl le_rfl (registos_postEmissao m), rfl⟩
  | _ =>
      obtain ⟨_, _, op⟩ := ok_of_bind op
      cases op
      exact ⟨.of_eq rfl rfl rfl le_rfl fun _ => rfl, rfl⟩

theorem terminaEmissao_poupa {empresa : String} {idL : Nat} {em em' : EmTerminaEmissao R}
    (op : terminaEmissao empresa idL m em = .ok (em', m')) :
    m.Poupa m' ∧ m'.exchange = m.exchange := by
  cases em with
  | remove =>
      simp only [terminaEmissao] at op
      split at op <;> cases op
      exact ⟨.of_eq rfl rfl rfl le_rfl fun _ => rfl, rfl⟩
  | empresa emissao =>
      obtain ⟨_, _, op⟩ := ok_of_bind op
      cases op
      exact ⟨.of_eq rfl rfl rfl le_rfl fun _ => rfl, rfl⟩
  | add emissao =>
      obtain ⟨empresaObj, found, op⟩ := ok_of_bind op
      cases op
      rw [empresaDe_eq_ok] at found
      refine ⟨⟨rfl, ?_, rfl, le_rfl, ?_, fun _ => rfl⟩, rfl⟩
      · intro c
        by_cases same : c = empresa
        · simp [Memoria.historico, same, found]
        · simp [Memoria.historico, same]
      · intro c
        by_cases same : c = empresa
        · simp [same, found]
        · simp [same]
  | json sucesso =>
      obtain ⟨_, _, op⟩ := ok_of_bind op
      cases op
      exact ⟨.of_eq rfl rfl rfl le_rfl fun _ => rfl, rfl⟩
  | put data =>
      cases op
      exact ⟨.of_eq rfl rfl rfl le_rfl (registos_putEmissaoSucesso m), rfl⟩
  | _ =>
      cases op
      exact ⟨.of_eq rfl rfl rfl le_rfl fun _ => rfl, rfl⟩

section Fios

variable {ref idL : Nat} {empresa : String} {em em' : EmTerminaLeilao R}

omit [JavaFloat R] [Gson R] in
theorem fios_poe (m : Memoria R) (ref idL : Nat) (c : String) (em : EmTerminaLeilao R) :
    (m.poeTerminaLeilao ref ⟨c, idL, em⟩).fios c =
      Function.update (m.fios c) ref (some (idL, em.fase)) := by
  funext outro
  by_cases same : outro = ref
  · simp [Memoria.fios, Memoria.poeTerminaLeilao, same]
  · simp [Memoria.fios, Memoria.poeTerminaLeilao, same]

omit [JavaFloat R] [Gson R] in
theorem fios_poe_outra (outra : empresa ≠ c) (before : m.fios c ref = none) :
    (m.poeTerminaLeilao ref ⟨empresa, idL, em⟩).fios c = m.fios c := by
  funext outro
  by_cases same : outro = ref
  · rw [same, before]
    simp [Memoria.fios, Memoria.poeTerminaLeilao, outra]
  · simp [Memoria.fios, Memoria.poeTerminaLeilao, same]

omit [JavaFloat R] [Gson R] in
theorem fios_eq (at' : m.terminaLeiloes ref = some ⟨c, idL, em⟩) :
    m.fios c ref = some (idL, em.fase) := by
  simp [Memoria.fios, at']

omit [JavaFloat R] [Gson R] in
theorem fios_outra (outra : empresa ≠ c) (at' : m.terminaLeiloes ref = some ⟨empresa, idL, em⟩) :
    m.fios c ref = none := by
  simp [Memoria.fios, at', outra]

omit [JavaFloat R] [Gson R] in
theorem visao_poe (m : Memoria R) (ref idL : Nat) (c : String) (em : EmTerminaLeilao R) :
    (m.poeTerminaLeilao ref ⟨c, idL, em⟩).visao c =
      ⟨m.leiloes c, m.historico c, m.exchange.curso c,
        Function.update (m.fios c) ref (some (idL, em.fase)), m.registos c⟩ := by
  rw [Memoria.visao, fios_poe]
  rfl

omit [JavaFloat R] [Gson R] in
theorem visao_poe_outra (outra : empresa ≠ c) (before : m.fios c ref = none) :
    (m.poeTerminaLeilao ref ⟨empresa, idL, em⟩).visao c = m.visao c := by
  rw [Memoria.visao, fios_poe_outra outra before]
  rfl

omit [JavaFloat R] [Gson R] in
/-- Where a settlement thread stays in its phase, the auctions stay as they are. -/
theorem muda_nada (at' : m.terminaLeiloes ref = some ⟨c, idL, em⟩) (fase : em'.fase = em.fase)
    (poupa : m.Poupa m') (exchange : m'.exchange = m.exchange) :
    (m.visao c).Muda none none none ((m'.poeTerminaLeilao ref ⟨c, idL, em'⟩).visao c) := by
  have before := fios_eq at'
  have same : m'.visao c = m.visao c := by
    rw [poupa.visao, exchange]
    rfl
  have fios : m'.fios c = m.fios c := congrArg Visao.fios same
  rw [visao_poe, fios, fase, ← before, Function.update_eq_self, ← fios]
  exact same ▸ .nada

theorem terminaLeilao_muda (at' : m.terminaLeiloes ref = some ⟨c, idL, em⟩)
    (op : terminaLeilao c idL m em = .ok (em', m')) :
    (m.visao c).Muda none none none ((m'.poeTerminaLeilao ref ⟨c, idL, em'⟩).visao c) := by
  have before := fios_eq at'
  have same : m.Poupa m := .of_eq rfl rfl rfl le_rfl fun _ => rfl
  cases em with
  | remove =>
      simp only [terminaLeilao] at op
      split at op
      · next leilao aberto =>
          cases op
          have step := Visao.Muda.remove (v := m.visao c) before aberto
          have fechado : Function.update m.leiloes c none c = none := Function.update_self ..
          simp only [visao_poe, fechado]
          exact step
      · cases op
  | soma leilao =>
      simp only [terminaLeilao] at op
      split at op <;> cases op <;>
        exact muda_nada at' rfl (.of_eq rfl rfl rfl le_rfl fun _ => rfl) rfl
  | size leilao alocados =>
      simp only [terminaLeilao] at op
      split at op <;> cases op <;>
        exact muda_nada at' rfl (.of_eq rfl rfl rfl le_rfl fun _ => rfl) rfl
  | add leilao sucesso alocou =>
      obtain ⟨empresaObj, found, op⟩ := ok_of_bind op
      cases op
      rw [empresaDe_eq_ok] at found
      have step := Visao.Muda.add (v := m.visao c) before
      have longer : Memoria.historico c { m with
          empresas := Function.update m.empresas c (some { empresaObj with
            historicoLeiloes := empresaObj.historicoLeiloes ++ [leilao] }) } =
          m.historico c ++ [leilao] := by
        simp [Memoria.historico, found]
      rw [visao_poe, longer]
      exact step
  | empresa leilao sucesso alocou =>
      obtain ⟨_, _, op⟩ := ok_of_bind op
      cases op
      exact muda_nada at' rfl same rfl
  | json leilao sucesso alocou =>
      obtain ⟨_, _, op⟩ := ok_of_bind op
      cases op
      exact muda_nada at' rfl same rfl
  | put data =>
      cases op
      exact muda_nada at' rfl (.of_eq rfl rfl rfl le_rfl (registos_putLeilaoSucesso m)) rfl
  | _ =>
      cases op
      exact muda_nada at' rfl (.of_eq rfl rfl rfl le_rfl fun _ => rfl) rfl

end Fios

/-- An auction whose thread has not been started has none yet, and no thread is for an object to
come. -/
structure Memoria.Fresca (m : Memoria R) : Prop where
  fios : ∀ ref, m.terminaLeiloes ref ≠ none → ref < m.novaRef
  abrindo : ∀ c leilao, (m.exchange.curso c).abrindo = some leilao →
    leilao < m.novaRef ∧ m.terminaLeiloes leilao = none

omit [JavaFloat R] [Gson R] in
theorem Memoria.Fresca.poupa (h : m.Fresca) (fios : m'.terminaLeiloes = m.terminaLeiloes)
    (novaRef : m.novaRef ≤ m'.novaRef) (fora : ∀ c, (m'.exchange.curso c).abrindo = none) :
    m'.Fresca where
  fios ref some_fio := by
    rw [fios] at some_fio
    exact (h.fios ref some_fio).trans_le novaRef
  abrindo c leilao here := by
    rw [fora c] at here
    cases here

omit [JavaFloat R] [Gson R] in
theorem Memoria.Fresca.mantem (h : m.Fresca) (fios : m'.terminaLeiloes = m.terminaLeiloes)
    (novaRef : m.novaRef ≤ m'.novaRef) (exchange : m'.exchange = m.exchange) : m'.Fresca where
  fios ref some_fio := by
    rw [fios] at some_fio
    exact (h.fios ref some_fio).trans_le novaRef
  abrindo c leilao here := by
    rw [exchange] at here
    rw [fios]
    exact ⟨(h.abrindo c leilao here).1.trans_le novaRef, (h.abrindo c leilao here).2⟩

omit [JavaFloat R] [Gson R] in
theorem Memoria.Fresca.poe (h : m.Fresca) {ref : Nat} {fio fio' : Fio (EmTerminaLeilao R)}
    (at' : m.terminaLeiloes ref = some fio) (fios : m'.terminaLeiloes = m.terminaLeiloes)
    (exchange : m'.exchange = m.exchange) (novaRef : m'.novaRef = m.novaRef) :
    (m'.poeTerminaLeilao ref fio').Fresca where
  fios outro some_fio := by
    simp only [Memoria.poeTerminaLeilao, fios, novaRef] at some_fio ⊢
    by_cases same : outro = ref
    · exact same ▸ h.fios ref (by simp [at'])
    · rw [Function.update_of_ne same] at some_fio
      exact h.fios outro some_fio
  abrindo c leilao here := by
    simp only [Memoria.poeTerminaLeilao, fios, novaRef, exchange] at here ⊢
    obtain ⟨old, none_yet⟩ := h.abrindo c leilao here
    refine ⟨old, ?_⟩
    rw [Function.update_of_ne, none_yet]
    rintro rfl
    cases none_yet.symm.trans at'

theorem terminaLeilao_threads {idL : Nat} {empresa : String} {em em' : EmTerminaLeilao R}
    (op : terminaLeilao empresa idL m em = .ok (em', m')) :
    m'.terminaLeiloes = m.terminaLeiloes ∧ m'.exchange = m.exchange ∧ m'.novaRef = m.novaRef := by
  cases em with
  | remove =>
      simp only [terminaLeilao] at op
      split at op <;> cases op
      exact ⟨rfl, rfl, rfl⟩
  | soma leilao =>
      simp only [terminaLeilao] at op
      split at op <;> cases op <;> exact ⟨rfl, rfl, rfl⟩
  | size leilao alocados =>
      simp only [terminaLeilao] at op
      split at op <;> cases op <;> exact ⟨rfl, rfl, rfl⟩
  | empresa leilao sucesso alocou =>
      obtain ⟨_, _, op⟩ := ok_of_bind op
      cases op
      exact ⟨rfl, rfl, rfl⟩
  | add leilao sucesso alocou =>
      obtain ⟨_, _, op⟩ := ok_of_bind op
      cases op
      exact ⟨rfl, rfl, rfl⟩
  | json leilao sucesso alocou =>
      obtain ⟨_, _, op⟩ := ok_of_bind op
      cases op
      exact ⟨rfl, rfl, rfl⟩
  | _ =>
      cases op
      exact ⟨rfl, rfl, rfl⟩

omit [JavaFloat R] [Gson R] in
theorem visao_em (m : Memoria R) (ponto : Ponto R) (c : String) :
    (m.em ponto).visao c = { m.visao c with curso := ponto.curso c } := rfl

omit [JavaFloat R] [Gson R] in
theorem curso_leilao (c : String) (quantia : Int32) (juro : R) (em : EmLeilao) :
    (Ponto.leilao c quantia juro em).curso c = .em em := if_pos rfl

omit [JavaFloat R] [Gson R] in
theorem curso_outra {empresa : String} (outra : empresa ≠ c) (quantia : Int32) (juro : R)
    (em : EmLeilao) : (Ponto.leilao empresa quantia juro em).curso c = .fora := if_neg outra

section Leilao

variable {empresa : String} {quantia : Int32} {juro : R} {agora agoraDiretorio : LocalDateTime}
  {em : EmLeilao}

theorem leilao_muda (at' : m.exchange = .leilao c quantia juro em)
    (op : leilao c quantia juro agora agoraDiretorio m em = .ok m') :
    let e : Lance R := ⟨m, .exchange agora agoraDiretorio, none, m'⟩
    (m.visao c).Muda (e.iniciou c) (e.publicou c) (e.aceitou c) (m'.visao c) := by
  intro e
  have curso : (m.visao c).curso = .em em := by rw [Memoria.visao, at', curso_leilao]
  cases em with
  | get =>
      simp only [e, Lance.iniciou, Lance.publicou, Lance.aceitou, at']
      simp only [leilao] at op
      split at op
      · next livre =>
          split at op <;> cases op
          · rw [visao_em, curso_leilao]
            exact .testa curso livre
          · exact .recusa curso
      · cases op
        exact .recusa curso
  | put =>
      simp only [e, Lance.iniciou, Lance.publicou, Lance.aceitou, at']
      cases op
      have aberto : Function.update m.leiloes c (some m.novaRef) c = some m.novaRef :=
        Function.update_self ..
      have step := Visao.Muda.put curso m.novaRef
      simp only [Memoria.visao, aberto, curso_leilao] at step ⊢
      exact step
  | empresa leilao =>
      simp only [e, Lance.iniciou, Lance.publicou, Lance.aceitou, at']
      obtain ⟨_, _, op⟩ := ok_of_bind op
      cases op
      rw [visao_em, curso_leilao]
      exact .empresa curso
  | historico leilao =>
      simp only [e, Lance.iniciou, Lance.publicou, Lance.aceitou, at']
      obtain ⟨empresaObj, found, op⟩ := ok_of_bind op
      cases op
      rw [empresaDe_eq_ok] at found
      have size : empresaObj.historicoLeiloes.length = (m.visao c).historico.length := by
        simp [Memoria.visao, Memoria.historico, found]
      rw [visao_em, curso_leilao, size]
      exact .conta curso
  | thread leilao idL =>
      simp only [e, Lance.iniciou, Lance.publicou, Lance.aceitou, at', if_true]
      cases op
      change (m.visao c).Muda _ _ _
        (((m.poeTerminaLeilao leilao ⟨c, idL, .remove⟩).em _).visao c)
      rw [visao_em, curso_leilao, visao_poe]
      exact .inicia curso
  | post leilao idL =>
      obtain ⟨data, found, op⟩ := ok_of_bind op
      cases op
      have finito := (toJson_eq_ok.1 found).1
      rw [RestRequest.finito_abertura] at finito
      simp only [e, Lance.iniciou, Lance.publicou, Lance.aceitou, at', finito, and_self, if_true]
      have aceita : (Ponto.aceita (.leilao c quantia juro) leilao idL).curso c =
          .aceita leilao idL := if_pos rfl
      change (m.visao c).Muda _ _ _
        ⟨m.leiloes c, m.historico c, (Ponto.aceita (.leilao c quantia juro) leilao idL).curso c,
          m.fios c, (m.chama (Directory.postLeilao agoraDiretorio data)).registos c⟩
      have named : data.nome = some c := by rw [← (toJson_eq_ok.1 found).2]; rfl
      have numbered : data.id = idL := by rw [← (toJson_eq_ok.1 found).2]; rfl
      rw [aceita, registos_postLeilao named, if_pos rfl, numbered]
      exact .publica curso

theorem leilao_outra (outra : empresa ≠ c) (fresca : m.Fresca)
    (at' : m.exchange = .leilao empresa quantia juro em)
    (op : leilao empresa quantia juro agora agoraDiretorio m em = .ok m') :
    m'.visao c = m.visao c := by
  have curso : m.exchange.curso c = .fora := by rw [at', curso_outra outra]
  have before (ponto : Ponto R) (fora : ponto.curso c = .fora) :
      (m.em ponto).visao c = m.visao c := by
    rw [visao_em, fora, ← curso]
    rfl
  cases em with
  | get =>
      simp only [leilao] at op
      split at op
      · split at op <;> cases op
        · exact before _ (curso_outra outra ..)
        · exact before _ rfl
      · cases op
        exact before _ rfl
  | put =>
      cases op
      simp [Memoria.visao, Memoria.historico, curso_outra outra, curso, Ne.symm outra]
      exact ⟨rfl, rfl⟩
  | thread leilao idL =>
      cases op
      have opening : (m.exchange.curso empresa).abrindo = some leilao := by
        rw [at', curso_leilao]
        rfl
      have new := (fresca.abrindo empresa leilao opening).2
      change ((m.poeTerminaLeilao leilao ⟨empresa, idL, .remove⟩).em _).visao c = _
      rw [visao_em, curso_outra outra, visao_poe_outra outra (by simp [Memoria.fios, new]), ← curso]
      rfl
  | post leilao idL =>
      obtain ⟨data, found, op⟩ := ok_of_bind op
      cases op
      have named : data.nome = some empresa := by rw [← (toJson_eq_ok.1 found).2]; rfl
      have fora : (Ponto.aceita (.leilao empresa quantia juro) leilao idL).curso c = .fora :=
        if_neg outra
      change (⟨m.leiloes c, m.historico c, _, m.fios c,
        (m.chama (Directory.postLeilao agoraDiretorio data)).registos c⟩ : Visao) = _
      rw [registos_postLeilao named, if_neg outra]
      exact before _ fora
  | _ =>
      obtain ⟨_, _, op⟩ := ok_of_bind op
      cases op
      exact before _ (curso_outra outra ..)

theorem leilao_fresca (fresca : m.Fresca) (at' : m.exchange = .leilao empresa quantia juro em)
    (op : leilao empresa quantia juro agora agoraDiretorio m em = .ok m') : m'.Fresca := by
  have opening {leilao : Nat} (here : em.abrindo = some leilao) :
      leilao < m.novaRef ∧ m.terminaLeiloes leilao = none := by
    refine fresca.abrindo empresa leilao ?_
    rw [at', curso_leilao]
    exact here
  have goes {em' : EmLeilao} (same : em'.abrindo = em.abrindo) :
      (m.em (.leilao empresa quantia juro em')).Fresca := by
    refine ⟨fresca.fios, ?_⟩
    intro c leilao here
    by_cases mine : empresa = c
    · subst mine
      rw [Memoria.em, curso_leilao] at here
      exact opening (same.symm.trans here)
    · rw [Memoria.em, curso_outra mine] at here
      cases here
  cases em with
  | get =>
      simp only [leilao] at op
      split at op
      · split at op <;> cases op
        · exact goes rfl
        · exact fresca.poupa rfl le_rfl fun _ => rfl
      · cases op
        exact fresca.poupa rfl le_rfl fun _ => rfl
  | put =>
      cases op
      refine ⟨fun ref some_fio => Nat.lt_succ_of_lt (fresca.fios ref some_fio), ?_⟩
      intro c leilao here
      by_cases mine : empresa = c
      · subst mine
        rw [curso_leilao] at here
        cases here
        refine ⟨Nat.lt_succ_self _, ?_⟩
        by_contra some_fio
        exact absurd (fresca.fios _ some_fio) (Nat.lt_irrefl _)
      · rw [curso_outra mine] at here
        cases here
  | thread leilao idL =>
      cases op
      refine ⟨?_, ?_⟩
      · intro ref some_fio
        by_cases same : ref = leilao
        · exact same ▸ (opening rfl).1
        · simp only [Function.update_of_ne same] at some_fio
          exact fresca.fios ref some_fio
      · intro c other here
        by_cases mine : empresa = c
        · subst mine
          rw [curso_leilao] at here
          cases here
        · rw [curso_outra mine] at here
          cases here
  | post leilao idL =>
      obtain ⟨_, _, op⟩ := ok_of_bind op
      cases op
      refine fresca.poupa rfl le_rfl ?_
      intro c
      by_cases mine : empresa = c <;> simp [Memoria.em, Ponto.curso, mine, Curso.abrindo]
  | _ =>
      obtain ⟨_, _, op⟩ := ok_of_bind op
      cases op
      exact goes rfl

end Leilao

omit [JavaFloat R] [Gson R] in
theorem empresaDe_ok (hosted : (m.empresas c).isSome) :
    ∃ empresaObj, m.empresaDe c = .ok empresaObj := by
  obtain ⟨empresaObj, found⟩ := Option.isSome_iff_exists.1 hosted
  exact ⟨empresaObj, empresaDe_eq_ok.2 found⟩

theorem leilao_error {quantia : Int32} {juro : R} {agora agoraDiretorio : LocalDateTime}
    {em : EmLeilao} {erro : Excecao} (hosted : (m.empresas c).isSome)
    (op : leilao c quantia juro agora agoraDiretorio m em = .error erro) :
    ∃ leilao idL, em = .post leilao idL ∧ JavaFloat.isFinite juro = false := by
  obtain ⟨empresaObj, found⟩ := empresaDe_ok hosted
  cases em with
  | get =>
      simp only [leilao] at op
      split at op
      · split at op <;> cases op
      · cases op
  | empresa leilao => simp [Threads.leilao, found, bind, Except.bind, pure, Except.pure] at op
  | historico leilao => simp [Threads.leilao, found, bind, Except.bind, pure, Except.pure] at op
  | post leilao idL =>
      refine ⟨leilao, idL, rfl, ?_⟩
      rw [← RestRequest.finito_abertura c idL juro quantia, Bool.eq_false_iff]
      intro finito
      have sent := toJson_eq_ok.2 ⟨finito, rfl⟩
      simp [Threads.leilao, sent, bind, Except.bind, pure, Except.pure] at op
  | _ => cases op

/-- A settlement thread of a hosted company raises where there is no auction to settle, or where
Gson refuses a bid after the auction is in the history. -/
theorem terminaLeilao_error {idL : Nat} {em : EmTerminaLeilao R} {erro : Excecao}
    (hosted : (m.empresas c).isSome) (op : terminaLeilao c idL m em = .error erro) :
    em = .remove ∧ m.leiloes c = none ∨ em.fase = .depois := by
  obtain ⟨empresaObj, found⟩ := empresaDe_ok hosted
  cases em with
  | remove =>
      simp only [terminaLeilao] at op
      split at op
      · cases op
      · next fechado => exact .inl ⟨rfl, fechado⟩
  | soma leilao =>
      simp only [terminaLeilao] at op
      split at op <;> cases op
  | size leilao alocados =>
      simp only [terminaLeilao] at op
      split at op <;> cases op
  | empresa leilao sucesso alocou =>
      simp [terminaLeilao, found, bind, Except.bind, pure, Except.pure] at op
  | add leilao sucesso alocou =>
      simp [terminaLeilao, found, bind, Except.bind, pure, Except.pure] at op
  | json leilao sucesso alocou => exact .inr rfl
  | _ => cases op

theorem terminaLeilao_outra {idL : Nat} {empresa : String} {em em' : EmTerminaLeilao R}
    (outra : empresa ≠ c) (op : terminaLeilao empresa idL m em = .ok (em', m')) :
    m'.visao c = m.visao c := by
  cases em with
  | remove =>
      simp only [terminaLeilao] at op
      split at op <;> cases op
      simp only [Memoria.visao, Function.update_of_ne (Ne.symm outra)]
      rfl
  | soma leilao =>
      simp only [terminaLeilao] at op
      split at op <;> cases op <;> rfl
  | size leilao alocados =>
      simp only [terminaLeilao] at op
      split at op <;> cases op <;> rfl
  | empresa leilao sucesso alocou =>
      obtain ⟨_, _, op⟩ := ok_of_bind op
      cases op
      rfl
  | add leilao sucesso alocou =>
      obtain ⟨empresaObj, _, op⟩ := ok_of_bind op
      cases op
      simp only [Memoria.visao, Memoria.historico, Function.update_of_ne (Ne.symm outra)]
      rfl
  | json leilao sucesso alocou =>
      obtain ⟨_, _, op⟩ := ok_of_bind op
      cases op
      rfl
  | put data =>
      cases op
      have poupa : m.Poupa (m.chama (Directory.putLeilaoSucesso data)) :=
        .of_eq rfl rfl rfl le_rfl (registos_putLeilaoSucesso m)
      exact poupa.visao c
  | _ =>
      cases op
      rfl

omit [JavaFloat R] [Gson R] in
theorem curso_inicio (c : String) (p : Pedido R) :
    (inicio p).curso c = .fora ∨ (inicio p).curso c = .em .get := by
  cases p with
  | leilao empresa quantia juro =>
      by_cases mine : empresa = c
      · exact .inr (by simp [inicio, Ponto.curso, mine])
      · exact .inl (by simp [inicio, Ponto.curso, mine])
  | _ => exact .inl rfl

theorem Memoria.Move.fresca {l : Passo R} {r : Option Resultado} (h : m.Move l r m')
    (fresca : m.Fresca) : m'.Fresca := by
  cases h with
  | @recv p at' =>
      refine fresca.poupa rfl le_rfl fun c => ?_
      cases curso_inicio c p with
      | inl fora => rw [Memoria.em, fora]; rfl
      | inr get => rw [Memoria.em, get]; rfl
  | licitar at' op =>
      have poupa := (licitar_poupa (c := "") op).1
      refine fresca.poupa poupa.terminaLeiloes poupa.novaRef fun c => ?_
      rw [(licitar_poupa op).2]
      rfl
  | emprestimo at' op =>
      have poupa := (emprestimo_poupa (c := "") op).1
      refine fresca.poupa poupa.terminaLeiloes poupa.novaRef fun c => ?_
      rw [(emprestimo_poupa op).2]
      rfl
  | emissao at' op =>
      have poupa := (emissao_poupa (c := "") op).1
      refine fresca.poupa poupa.terminaLeiloes poupa.novaRef fun c => ?_
      rw [(emissao_poupa op).2]
      rfl
  | leilao at' op => exact leilao_fresca fresca at' op
  | falhaLeilao at' op => exact fresca.poupa rfl le_rfl fun _ => rfl
  | falha outro meio => exact fresca.poupa rfl le_rfl fun _ => rfl
  | aceita at' => exact fresca.poupa rfl le_rfl fun _ => rfl
  | recusa at' => exact fresca.poupa rfl le_rfl fun _ => rfl
  | terminaLeilao at' corre op =>
      obtain ⟨fios, exchange, novaRef⟩ := terminaLeilao_threads op
      exact fresca.poe at' fios exchange novaRef
  | falhaTerminaLeilao at' corre op => exact fresca.poe at' rfl rfl rfl
  | terminaEmissao at' corre op =>
      obtain ⟨poupa, exchange⟩ := terminaEmissao_poupa op
      refine fresca.mantem ?_ poupa.novaRef exchange
      exact poupa.terminaLeiloes
  | falhaTerminaEmissao at' corre op =>
      exact fresca.mantem rfl le_rfl rfl

omit [Gson R] in
theorem Lance.muda_fora {e : Lance R} (fora : e.pre.exchange.curso c = .fora)
    (same : e.post.visao c = e.pre.visao c) :
    (e.pre.visao c).Muda (e.iniciou c) (e.publicou c) (e.aceitou c) (e.post.visao c) := by
  have none_started : e.iniciou c = none := by
    unfold Lance.iniciou
    split
    · next at' =>
        rw [at'] at fora
        split_ifs with mine
        · simp [Ponto.curso, mine] at fora
        · rfl
    · rfl
  have none_published : e.publicou c = none := by
    unfold Lance.publicou
    split
    · next at' =>
        rw [at'] at fora
        split_ifs with mine
        · simp [Ponto.curso, mine.1] at fora
        · rfl
    · rfl
  have none_answered : e.aceitou c = none := by
    unfold Lance.aceitou
    split
    · next at' =>
        rw [at'] at fora
        split_ifs with mine
        · simp [Ponto.curso, mine] at fora
        · rfl
    · rfl
  rw [none_started, none_published, none_answered, same]
  exact .nada

/-- The rate of an auction of the company that is about to be reported is finite. -/
def Memoria.Finita (c : String) (m : Memoria R) : Prop :=
  ∀ quantia juro leilao idL, m.exchange = .leilao c quantia juro (.post leilao idL) →
    JavaFloat.isFinite juro = true

theorem Memoria.Move.muda {l : Passo R} {r : Option Resultado} (h : m.Move l r m')
    (fresca : m.Fresca) (hosted : (m.empresas c).isSome)
    (finita : ∀ agora agoraDiretorio, l = .exchange agora agoraDiretorio → m.Finita c) :
    let e : Lance R := ⟨m, l, r, m'⟩
    (m.visao c).Muda (e.iniciou c) (e.publicou c) (e.aceitou c) (m'.visao c) := by
  have quiet (fora : m.exchange.curso c = .fora) (poupa : m.Poupa m')
      (fora' : m'.exchange.curso c = .fora) : m'.visao c = m.visao c := by
    rw [poupa.visao, fora', ← fora]
    rfl
  have igual {ponto : Ponto R} : m.Poupa (m.em ponto) := .of_eq rfl rfl rfl le_rfl fun _ => rfl
  intro e
  cases h with
  | @recv p at' =>
      have fora : (m.visao c).curso = .fora := by rw [Memoria.visao, at']; rfl
      rw [visao_em]
      cases curso_inicio c p with
      | inl fora' =>
          rw [fora', ← fora]
          exact .nada
      | inr get =>
          rw [get]
          exact .entra fora
  | licitar at' op =>
      have fora : m.exchange.curso c = .fora := by rw [at']; rfl
      exact Lance.muda_fora (e := e) fora
        (quiet fora (licitar_poupa (c := c) op).1 (licitar_poupa op).2)
  | emprestimo at' op =>
      have fora : m.exchange.curso c = .fora := by rw [at']; rfl
      exact Lance.muda_fora (e := e) fora
        (quiet fora (emprestimo_poupa (c := c) op).1 (emprestimo_poupa op).2)
  | emissao at' op =>
      have fora : m.exchange.curso c = .fora := by rw [at']; rfl
      exact Lance.muda_fora (e := e) fora
        (quiet fora (emissao_poupa (c := c) op).1 (emissao_poupa op).2)
  | @leilao agora agoraDiretorio empresa quantia juro em _ at' op =>
      by_cases mine : empresa = c
      · subst mine
        exact leilao_muda at' op
      · have fora : m.exchange.curso c = .fora := by rw [at', curso_outra mine]
        exact Lance.muda_fora (e := e) fora (leilao_outra mine fresca at' op)
  | @falhaLeilao agora agoraDiretorio empresa quantia juro em erro at' op =>
      by_cases mine : empresa = c
      · subst mine
        obtain ⟨leilao, idL, rfl, especial⟩ := leilao_error hosted op
        cases especial.symm.trans (finita _ _ rfl _ _ _ _ at')
      · have fora : m.exchange.curso c = .fora := by rw [at', curso_outra mine]
        exact Lance.muda_fora (e := e) fora (quiet fora igual rfl)
  | falha outro meio =>
      have fora : m.exchange.curso c = .fora := by
        unfold Ponto.curso
        split
        · next at' => exact absurd at' (outro _ _ _ _)
        · next at' => exact absurd at' (meio _ _ _)
        · rfl
      exact Lance.muda_fora (e := e) fora (quiet fora igual rfl)
  | @aceita _ _ p objeto idL at' =>
      by_cases mine : ∃ quantia juro, p = .leilao c quantia juro
      · obtain ⟨quantia, juro, rfl⟩ := mine
        simp only [e, Lance.iniciou, Lance.publicou, Lance.aceitou, at', if_true]
        have curso : (m.visao c).curso = .aceita objeto idL := by
          rw [Memoria.visao, at']
          exact if_pos rfl
        exact .aceita curso
      · have fora : m.exchange.curso c = .fora := by
          rw [at']
          cases p with
          | leilao empresa quantia juro =>
              refine if_neg ?_
              rintro rfl
              exact mine ⟨_, _, rfl⟩
          | _ => rfl
        exact Lance.muda_fora (e := e) fora (quiet fora igual rfl)
  | recusa at' =>
      have fora : m.exchange.curso c = .fora := by rw [at']; rfl
      exact Lance.muda_fora (e := e) fora (quiet fora igual rfl)
  | @terminaLeilao ref idL empresa em em' m'' at' corre op =>
      by_cases mine : empresa = c
      · subst mine
        exact terminaLeilao_muda at' op
      · have same := terminaLeilao_outra mine op
        have before : m''.fios c ref = none :=
          (congrFun (congrArg Visao.fios same) ref).trans (fios_outra mine at')
        rw [visao_poe_outra mine before, same]
        exact .nada
  | @falhaTerminaLeilao ref idL empresa em erro at' corre op =>
      by_cases mine : empresa = c
      · subst mine
        have before := fios_eq at'
        rw [visao_poe]
        cases terminaLeilao_error hosted op with
        | inl nulo =>
            obtain ⟨rfl, fechado⟩ := nulo
            exact .nulo before fechado
        | inr depois =>
            have after : some (idL, (EmTerminaLeilao.fim (R := R)).fase) = m.fios empresa ref := by
              rw [before, depois]
              rfl
            rw [after, Function.update_eq_self]
            exact .nada
      · rw [visao_poe_outra mine (fios_outra mine at')]
        exact .nada
  | @terminaEmissao ref idL empresa em em' m'' at' corre op =>
      obtain ⟨poupa, exchange⟩ := terminaEmissao_poupa op
      have same : m''.visao c = m.visao c := by
        rw [poupa.visao, exchange]
        rfl
      change (m.visao c).Muda none none none (m''.visao c)
      exact same ▸ .nada
  | falhaTerminaEmissao at' corre op => exact .nada

/-! ### Companies and the calls of the settlement threads -/

theorem leilao_empresas {empresa : String} {quantia : Int32} {juro : R}
    {agora agoraDiretorio : LocalDateTime} {em : EmLeilao}
    (op : leilao empresa quantia juro agora agoraDiretorio m em = .ok m') :
    m'.empresas = m.empresas ∧
      ∀ ref fio, m'.terminaLeiloes ref = some fio →
        m.terminaLeiloes ref = some fio ∨ fio.em = .remove := by
  cases em with
  | get =>
      simp only [leilao] at op
      split at op
      · split at op <;> cases op <;> exact ⟨rfl, fun _ _ => .inl⟩
      · cases op
        exact ⟨rfl, fun _ _ => .inl⟩
  | put =>
      cases op
      exact ⟨rfl, fun _ _ => .inl⟩
  | thread leilao idL =>
      cases op
      refine ⟨rfl, ?_⟩
      intro ref fio found
      by_cases same : ref = leilao
      · simp only [same, Function.update_self, Option.some.injEq] at found
        exact .inr (by rw [← found])
      · simp only [Function.update_of_ne same] at found
        exact .inl found
  | _ =>
      obtain ⟨_, _, op⟩ := ok_of_bind op
      cases op
      exact ⟨rfl, fun _ _ => .inl⟩

theorem terminaLeilao_hospeda {idL : Nat} {empresa : String} {em em' : EmTerminaLeilao R}
    (op : terminaLeilao empresa idL m em = .ok (em', m')) (c : String) :
    (m'.empresas c).isSome = (m.empresas c).isSome := by
  cases em with
  | remove =>
      simp only [terminaLeilao] at op
      split at op <;> cases op
      rfl
  | soma leilao =>
      simp only [terminaLeilao] at op
      split at op <;> cases op <;> rfl
  | size leilao alocados =>
      simp only [terminaLeilao] at op
      split at op <;> cases op <;> rfl
  | add leilao sucesso alocou =>
      obtain ⟨empresaObj, found, op⟩ := ok_of_bind op
      cases op
      rw [empresaDe_eq_ok] at found
      by_cases same : c = empresa
      · simp [same, found]
      · simp [same]
  | empresa leilao sucesso alocou =>
      obtain ⟨_, _, op⟩ := ok_of_bind op
      cases op
      rfl
  | json leilao sucesso alocou =>
      obtain ⟨_, _, op⟩ := ok_of_bind op
      cases op
      rfl
  | _ =>
      cases op
      rfl

theorem Memoria.Move.hospeda {l : Passo R} {r : Option Resultado} (h : m.Move l r m')
    (c : String) : (m'.empresas c).isSome = (m.empresas c).isSome := by
  cases h with
  | licitar at' op => exact (licitar_poupa (c := c) op).1.hospeda c
  | emprestimo at' op => exact (emprestimo_poupa (c := c) op).1.hospeda c
  | emissao at' op => exact (emissao_poupa (c := c) op).1.hospeda c
  | leilao at' op => rw [(leilao_empresas op).1]
  | terminaLeilao at' corre op => exact terminaLeilao_hospeda op c
  | terminaEmissao at' corre op => exact (terminaEmissao_poupa op).1.hospeda c
  | _ => rfl

/-- What `TerminaLeilao` sends is about its company and its number. -/
def Memoria.Dados (m : Memoria R) : Prop :=
  ∀ ref empresa idL data, m.terminaLeiloes ref = some ⟨empresa, idL, .put data⟩ →
    data.nome = some empresa ∧ data.id = idL

theorem terminaLeilao_dados {idL : Nat} {empresa : String} {em : EmTerminaLeilao R}
    {data : Directory.RestRequest R}
    (op : terminaLeilao empresa idL m em = .ok (.put data, m')) :
    data.nome = some empresa ∧ data.id = idL := by
  cases em with
  | json leilao sucesso alocou =>
      obtain ⟨sent, json, op⟩ := ok_of_bind op
      cases op
      rw [← (toJson_eq_ok.1 json).2]
      split <;> exact ⟨rfl, rfl⟩
  | remove =>
      simp only [terminaLeilao] at op
      split at op <;> cases op
  | soma leilao =>
      simp only [terminaLeilao] at op
      split at op <;> cases op
  | size leilao alocados =>
      simp only [terminaLeilao] at op
      split at op <;> cases op
  | empresa leilao sucesso alocou =>
      obtain ⟨_, _, op⟩ := ok_of_bind op
      cases op
  | add leilao sucesso alocou =>
      obtain ⟨_, _, op⟩ := ok_of_bind op
      cases op
  | _ => cases op

theorem Memoria.Move.dados {l : Passo R} {r : Option Resultado} (h : m.Move l r m')
    (dados : m.Dados) : m'.Dados := by
  have mantem {m'' : Memoria R} (fios : m''.terminaLeiloes = m.terminaLeiloes) : m''.Dados := by
    intro ref empresa idL data found
    rw [fios] at found
    exact dados ref empresa idL data found
  cases h with
  | licitar at' op => exact mantem (licitar_poupa (c := "") op).1.terminaLeiloes
  | emprestimo at' op => exact mantem (emprestimo_poupa (c := "") op).1.terminaLeiloes
  | emissao at' op => exact mantem (emissao_poupa (c := "") op).1.terminaLeiloes
  | leilao at' op =>
      intro ref empresa idL data found
      cases (leilao_empresas op).2 ref _ found with
      | inl old => exact dados ref empresa idL data old
      | inr fresh => cases fresh
  | @terminaLeilao ref idL empresa em em' m'' at' corre op =>
      intro outro nome n data found
      simp only [Memoria.poeTerminaLeilao, (terminaLeilao_threads op).1] at found
      by_cases same : outro = ref
      · rw [same, Function.update_self] at found
        cases found
        exact terminaLeilao_dados op
      · rw [Function.update_of_ne same] at found
        exact dados outro nome n data found
  | @falhaTerminaLeilao ref idL empresa em erro at' corre op =>
      intro outro nome n data found
      simp only [Memoria.poeTerminaLeilao] at found
      by_cases same : outro = ref
      · rw [same, Function.update_self] at found
        cases found
      · rw [Function.update_of_ne same] at found
        exact dados outro nome n data found
  | terminaEmissao at' corre op => exact mantem (terminaEmissao_poupa op).1.terminaLeiloes
  | _ => exact mantem rfl

end PeerLanding.Threads
