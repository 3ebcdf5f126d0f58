import Mathlib.Data.Set.Basic
import PeerLanding.AuctionMirror
import PeerLanding.Directory.Lookups
import PeerLanding.SentNumbers

/-! Lookups in the Directory, by the numbers that the exchange gives and over runs that may lose
calls. The handlers go to a position, so they are exact where numbers are positions; a name that
is not registered and a negative index raise exceptions. -/

namespace PeerLanding

open Exchange NumberedLists

namespace Directory

variable {R α β : Type}

/-- Status 200 with an object of `held`, or status 404 when there is none. -/
def Exata (held : Set α) : Except Excecao (Response α) → Prop
  | .ok (.entity obj) => obj ∈ held
  | .ok .notFound => held = ∅
  | .error _ => False

theorem exata_porId {held : Set β} {xs : List α} {id : Int}
    {f : α → Except Excecao (Response β)} :
    Exata held (porId xs id f) ↔ 0 ≤ id ∧
      match xs[id.toNat]? with
      | some x => Exata held (f x)
      | none => held = ∅ := by
  cases id with
  | negSucc n => simp [porId_negative, Exata]
  | ofNat n =>
      simp only [Int.ofNat_eq_natCast, Int.natCast_nonneg, Int.toNat_natCast, true_and]
      cases found : xs[n]? with
      | some x => rw [porId_of_found found]
      | none => rw [porId_of_past found, Exata]

def detidos (d : Directory R) (nome : Option String) (held : String → Empresa R → Set α) : Set α :=
  {x | ∃ c ∈ nome, ∃ empresa ∈ d c, x ∈ held c empresa}

theorem exata_daEmpresa {d : Directory R} {nome : Option String}
    {held : String → Empresa R → Set α} {f : Empresa R → Except Excecao (Response α)} :
    Exata (detidos d nome held) (daEmpresa nome f d) ↔
      nome = none ∨ ∃ c ∈ nome, ∃ empresa ∈ d c, Exata (held c empresa) (f empresa) := by
  cases nome with
  | none => simp [daEmpresa, detidos, Exata]
  | some nome =>
      cases known : d nome with
      | none => simp [daEmpresa, known, Exata]
      | some empresa => simp [daEmpresa, detidos, known]

/-! ### Objects by number -/

section Listas

variable (number : α → Int) (bids : α → List (Licitacao R)) (xs : List α)
  (ms : List (List (Licitacao R × Int)))

def registos (id : Int) : Set α := {x | x ∈ xs ∧ number x = id}

def listas (id : Int) : Set (List (Licitacao R)) := Set.image bids (registos number xs id)

/-- The bids delivered for auction or emission `n` as its number `id`. -/
def licitacoes (n id : Int) : Set (Licitacao R) :=
  {l | ∃ ls, Java.get ms n = .ok ls ∧ (l, id) ∈ ls}

/-- Position `id` has number `id`, or the list ends before it and has no such number. -/
def RegistoNoLugar (id : Int) : Prop :=
  0 ≤ id ∧
    match xs[id.toNat]? with
    | some x => number x = id
    | none => ∀ x ∈ xs, number x ≠ id

/-- The bids at position `id` are those of a record numbered `id`, or the list ends before it and
has no such number. -/
def ListaNoLugar (id : Int) : Prop :=
  0 ≤ id ∧
    match xs[id.toNat]? with
    | some x => ∃ y ∈ xs, number y = id ∧ bids y = bids x
    | none => ∀ x ∈ xs, number x ≠ id

/-- The bid at position `id` of those at position `n` was delivered as that number, or one of the
lists ends before and no bid was. -/
def LicitacaoNoLugar (n id : Int) : Prop :=
  0 ≤ n ∧
    match xs[n.toNat]? with
    | some x => 0 ≤ id ∧
        match (bids x)[id.toNat]? with
        | some l => l ∈ licitacoes ms n id
        | none => licitacoes ms n id = ∅
    | none => licitacoes ms n id = ∅

variable {number bids xs ms}

omit bids in
theorem registos_eq_empty {id : Int} :
    registos number xs id = ∅ ↔ ∀ x ∈ xs, number x ≠ id := by
  simp [registos, Set.eq_empty_iff_forall_notMem]

theorem exata_registo {id : Int} :
    Exata (registos number xs id) (porId xs id fun x => .ok (.entity x)) ↔
      RegistoNoLugar number xs id := by
  rw [exata_porId, RegistoNoLugar]
  refine and_congr_right fun _ => ?_
  cases found : xs[id.toNat]? with
  | some x => simp [Exata, registos, List.mem_of_getElem? found]
  | none => exact registos_eq_empty

theorem exata_lista {id : Int} :
    Exata (listas number bids xs id) (porId xs id fun x => .ok (.entity (bids x))) ↔
      ListaNoLugar number bids xs id := by
  rw [exata_porId, ListaNoLugar]
  refine and_congr_right fun _ => ?_
  cases xs[id.toNat]? with
  | some x => simp [Exata, listas, registos, and_assoc]
  | none => exact Set.image_eq_empty.trans registos_eq_empty

theorem exata_licitacao {n id : Int} :
    Exata (licitacoes ms n id) (porId xs n fun x => porId (bids x) id fun l => .ok (.entity l)) ↔
      LicitacaoNoLugar bids xs ms n id := by
  rw [exata_porId, LicitacaoNoLugar]
  refine and_congr_right fun _ => ?_
  cases xs[n.toNat]? with
  | none => exact Iff.rfl
  | some x =>
      dsimp only
      rw [exata_porId]
      refine and_congr_right fun _ => ?_
      cases (bids x)[id.toNat]? with
      | none => exact Iff.rfl
      | some l => exact Iff.rfl

theorem RegistoNoLugar.of_numbered (h : Numbered number xs) (n : Nat) :
    RegistoNoLugar number xs n := by
  refine ⟨by simp, ?_⟩
  rw [Int.toNat_natCast]
  cases found : xs[n]? with
  | some x => exact h n x found
  | none =>
      intro x hx same
      rw [h.mem_iff.1 ⟨hx, same⟩] at found
      cases found

theorem ListaNoLugar.of_numbered (h : Numbered number xs) (n : Nat) :
    ListaNoLugar number bids xs n := by
  have record := RegistoNoLugar.of_numbered h n
  refine ⟨record.1, ?_⟩
  cases found : xs[(n : Int).toNat]? with
  | some x =>
      have numbered := record.2
      rw [found] at numbered
      exact ⟨x, List.mem_of_getElem? found, numbered, rfl⟩
  | none =>
      have absent := record.2
      rwa [found] at absent

theorem LicitacaoNoLugar.of_numbered (same : ms.map (·.map Prod.fst) = xs.map bids)
    (h : ∀ ls ∈ ms, Numbered Prod.snd ls) (n i : Nat) : LicitacaoNoLugar bids xs ms n i := by
  refine ⟨by simp, ?_⟩
  rw [Int.toNat_natCast]
  cases found : xs[n]? with
  | none =>
      refine Set.eq_empty_of_forall_notMem ?_
      rintro l ⟨ls, sent, _⟩
      obtain ⟨x, record, _⟩ := Java.get_of_map_eq same sent
      rw [Java.get_natCast, found] at record
      cases record
  | some x =>
      obtain ⟨ls, sent, bids_of_ls⟩ := Java.get_of_map_eq same.symm (Java.get_natCast.2 found)
      have numbered := h ls (Java.mem_of_get sent)
      refine ⟨by simp, ?_⟩
      rw [Int.toNat_natCast, ← bids_of_ls, List.getElem?_map]
      cases bid : ls[i]? with
      | some p => exact ⟨ls, sent, numbered i p bid ▸ List.mem_of_getElem? bid⟩
      | none =>
          refine Set.eq_empty_of_forall_notMem ?_
          rintro l ⟨ls', sent', held⟩
          cases sent.symm.trans sent'
          rw [numbered.mem_iff.1 ⟨held, rfl⟩] at bid
          cases bid

theorem LicitacaoNoLugar.position {x : α} {ls : List (Licitacao R × Int)} {l : Licitacao R}
    {n : Nat} {id : Int} (h : LicitacaoNoLugar bids xs ms n ls.length)
    (numbered : Numbered Prod.snd ls) (found : xs[n]? = some x)
    (appended : bids x = ls.map Prod.fst ++ [l]) (sent : ms[n]? = some (ls ++ [(l, id)])) :
    id = ls.length := by
  have place := h.2
  have last : (bids x)[ls.length]? = some l := by simp [appended]
  rw [Int.toNat_natCast, found] at place
  obtain ⟨_, place⟩ := place
  rw [Int.toNat_natCast, last] at place
  obtain ⟨ls', sent', held⟩ := place
  rw [Java.get_natCast, sent, Option.some.injEq] at sent'
  rw [← sent', List.mem_append, List.mem_singleton, Prod.mk.injEq] at held
  cases held with
  | inr new => exact new.2.symm
  | inl old =>
      have inside := (List.getElem?_eq_some_iff.1 (numbered.mem_iff.1 ⟨old, rfl⟩)).1
      exact absurd inside (lt_irrefl _)

/-- After a bid is appended with the number `id`, lookups are exact only if that is its position. -/
theorem LicitacaoNoLugar.appended {x : α} {g : α → α} {l : Licitacao R} {n id : Int}
    (same : ms.map (·.map Prod.fst) = xs.map bids) (numbered : ∀ ls ∈ ms, Numbered Prod.snd ls)
    (found : Java.get xs n = .ok x) (adds : bids (g x) = bids x ++ [l])
    (h : ∀ k i : Nat,
      LicitacaoNoLugar bids (emPosicao g xs n) (emPosicao (· ++ [(l, id)]) ms n) k i) :
    id = (bids x).length := by
  obtain ⟨ls, sent, bids_of_ls⟩ := Java.get_of_map_eq same.symm found
  obtain ⟨inside, _⟩ := Java.get_eq_ok.1 found
  lift n to Nat using inside
  rw [Java.get_natCast] at found sent
  rw [← bids_of_ls, List.length_map]
  refine (h n ls.length).position (numbered ls (List.mem_of_getElem? sent)) (get_emPosicao found) ?_
    (get_emPosicao sent)
  rw [adds, bids_of_ls]

end Listas

/-! ### The six lookups -/

/-- The parameters of a lookup, without the company's name. -/
inductive Pergunta where
  | leilao (id : Int)
  | emissao (id : Int)
  | licitacoesLeilao (id : Int)
  | licitacoesEmissao (id : Int)
  | licitacaoLeilao (idL id : Int)
  | licitacaoEmissao (idE id : Int)

namespace Pergunta

/-- The handler answers with the object that has the numbers asked for. -/
def Exata (d : Directory R) (m : String → Numeradas R) (nome : Option String) : Pergunta → Prop
  | .leilao id =>
      Directory.Exata (detidos d nome fun _ empresa =>
        registos Leilao.id empresa.historicoLeiloes id) (getLeilao nome id d)
  | .emissao id =>
      Directory.Exata (detidos d nome fun _ empresa =>
        registos Emissao.id empresa.historicoEmissoes id) (getEmissao nome id d)
  | .licitacoesLeilao id =>
      Directory.Exata (detidos d nome fun _ empresa =>
        listas Leilao.id Leilao.licitacoes empresa.historicoLeiloes id)
        (getLicitacoesLeilao nome id d)
  | .licitacoesEmissao id =>
      Directory.Exata (detidos d nome fun _ empresa =>
        listas Emissao.id Emissao.licitacoes empresa.historicoEmissoes id)
        (getLicitacoesEmissao nome id d)
  | .licitacaoLeilao idL id =>
      Directory.Exata (detidos d nome fun c _ => licitacoes (m c).leiloes idL id)
        (getLicitacaoLeilao nome idL id d)
  | .licitacaoEmissao idE id =>
      Directory.Exata (detidos d nome fun c _ => licitacoes (m c).emissoes idE id)
        (getLicitacaoEmissao nome idE id d)

/-- Where the handler looks, positions are the numbers asked for. -/
def NoLugar (empresa : Empresa R) (m : Numeradas R) : Pergunta → Prop
  | .leilao id => RegistoNoLugar Leilao.id empresa.historicoLeiloes id
  | .emissao id => RegistoNoLugar Emissao.id empresa.historicoEmissoes id
  | .licitacoesLeilao id =>
      ListaNoLugar Leilao.id Leilao.licitacoes empresa.historicoLeiloes id
  | .licitacoesEmissao id =>
      ListaNoLugar Emissao.id Emissao.licitacoes empresa.historicoEmissoes id
  | .licitacaoLeilao idL id =>
      LicitacaoNoLugar Leilao.licitacoes empresa.historicoLeiloes m.leiloes idL id
  | .licitacaoEmissao idE id =>
      LicitacaoNoLugar Emissao.licitacoes empresa.historicoEmissoes m.emissoes idE id

def NaoNegativa : Pergunta → Prop
  | .leilao id | .emissao id | .licitacoesLeilao id | .licitacoesEmissao id => 0 ≤ id
  | .licitacaoLeilao n id | .licitacaoEmissao n id => 0 ≤ n ∧ 0 ≤ id

theorem exata_iff {d : Directory R} {m : String → Numeradas R} {nome : Option String}
    (q : Pergunta) :
    q.Exata d m nome ↔ nome = none ∨ ∃ c ∈ nome, ∃ empresa ∈ d c, q.NoLugar empresa (m c) := by
  cases q with
  | leilao id =>
      exact exata_daEmpresa.trans (or_congr_right (exists_congr fun _ => and_congr_right fun _ =>
        exists_congr fun _ => and_congr_right fun _ => exata_registo))
  | emissao id =>
      exact exata_daEmpresa.trans (or_congr_right (exists_congr fun _ => and_congr_right fun _ =>
        exists_congr fun _ => and_congr_right fun _ => exata_registo))
  | licitacoesLeilao id =>
      exact exata_daEmpresa.trans (or_congr_right (exists_congr fun _ => and_congr_right fun _ =>
        exists_congr fun _ => and_congr_right fun _ => exata_lista))
  | licitacoesEmissao id =>
      exact exata_daEmpresa.trans (or_congr_right (exists_congr fun _ => and_congr_right fun _ =>
        exists_congr fun _ => and_congr_right fun _ => exata_lista))
  | licitacaoLeilao idL id =>
      exact exata_daEmpresa.trans (or_congr_right (exists_congr fun _ => and_congr_right fun _ =>
        exists_congr fun _ => and_congr_right fun _ => exata_licitacao))
  | licitacaoEmissao idE id =>
      exact exata_daEmpresa.trans (or_congr_right (exists_congr fun _ => and_congr_right fun _ =>
        exists_congr fun _ => and_congr_right fun _ => exata_licitacao))

variable {empresa : Empresa R} {m : Numeradas R}

theorem noLugar_of_numerada (h : empresa.Numerada) (hm : m.NoLugar) (same : m.Do empresa)
    {q : Pergunta} (hq : q.NaoNegativa) : q.NoLugar empresa m := by
  cases q with
  | leilao id =>
      lift id to Nat using hq
      exact .of_numbered h.leiloes id
  | emissao id =>
      lift id to Nat using hq
      exact .of_numbered h.emissoes id
  | licitacoesLeilao id =>
      lift id to Nat using hq
      exact .of_numbered h.leiloes id
  | licitacoesEmissao id =>
      lift id to Nat using hq
      exact .of_numbered h.emissoes id
  | licitacaoLeilao idL id =>
      lift idL to Nat using hq.1
      lift id to Nat using hq.2
      exact .of_numbered same.leiloes hm.leiloes idL id
  | licitacaoEmissao idE id =>
      lift idE to Nat using hq.1
      lift id to Nat using hq.2
      exact .of_numbered same.emissoes hm.emissoes idE id

theorem numerada_of_noLugar (h : ∀ q : Pergunta, q.NaoNegativa → q.NoLugar empresa m) :
    empresa.Numerada := by
  refine ⟨?_, ?_⟩
  · intro i leilao found
    have place := (h (.leilao i) (Int.natCast_nonneg i)).2
    simpa only [Int.toNat_natCast, found] using place
  · intro i emissao found
    have place := (h (.emissao i) (Int.natCast_nonneg i)).2
    simpa only [Int.toNat_natCast, found] using place

end Pergunta

/-- Every lookup that names a company of the Directory, or none, and has no negative index is
exact. -/
def TodasExatas (d : Directory R) (m : String → Numeradas R) : Prop :=
  ∀ nome : Option String, (∀ c ∈ nome, (d c).isSome = true) →
    ∀ q : Pergunta, q.NaoNegativa → q.Exata d m nome

theorem todasExatas_iff {d : Directory R} {m : String → Numeradas R} :
    TodasExatas d m ↔ ∀ c, ∀ registo ∈ d c, ∀ q : Pergunta, q.NaoNegativa →
      q.NoLugar registo (m c) := by
  refine ⟨?_, ?_⟩
  · intro h c registo hr q hq
    have exact_answer := h (some c) (by simp [Option.mem_def.1 hr]) q hq
    rw [Pergunta.exata_iff] at exact_answer
    simpa [Option.mem_def.1 hr] using exact_answer
  · intro h nome known q hq
    rw [Pergunta.exata_iff]
    cases nome with
    | none => exact .inl rfl
    | some c =>
        obtain ⟨registo, hr⟩ := Option.isSome_iff_exists.1 (known c rfl)
        exact .inr ⟨c, rfl, registo, hr, h c registo hr q hq⟩

end Directory

/-! ### Runs that may lose calls -/

section Entregas

variable {R : Type} [JavaFloat R] {registo : Directory.Empresa R} {m : Directory.Numeradas R}
  {aberto : Option (Leilao R)}

/-- The bids of an outcome are found by their numbers only if they are the auction's first bids. -/
theorem Exchange.Leilao.alocadas_prefix {leilao : Leilao R} {n : Nat}
    {xs : List (Directory.Leilao R)} {ms : List (List (Directory.Licitacao R × Int))}
    {x : Directory.Leilao R} (found : xs[n]? = some x)
    (replaced : x.licitacoes = (Directory.mantidas leilao).map Prod.fst)
    (sent : ms[n]? = some (Directory.mantidas leilao))
    (h : ∀ i : Nat, Directory.LicitacaoNoLugar Directory.Leilao.licitacoes xs ms n i) :
    leilao.alocadas <+: leilao.licitacoes := by
  rw [List.prefix_iff_getElem?]
  intro i inside
  have bid : x.licitacoes[i]? = some ⟨0, some leilao.alocadas[i].investidor,
      leilao.alocadas[i].taxa, leilao.alocadas[i].quantia⟩ := by
    rw [replaced, Directory.Numeradas.map_fst_mantidas, List.getElem?_map,
      List.getElem?_eq_getElem inside, Option.map_some]
  have place := (h i).2
  rw [Int.toNat_natCast, found] at place
  obtain ⟨_, place⟩ := place
  rw [Int.toNat_natCast, bid] at place
  obtain ⟨ls, sent', held⟩ := place
  rw [Java.get_natCast, sent, Option.some.injEq] at sent'
  rw [← sent', Directory.mantidas, List.mem_map] at held
  obtain ⟨⟨l, j⟩, kept, same⟩ := held
  simp only [Prod.mk.injEq, Directory.Licitacao.mk.injEq, Option.some.injEq, true_and,
    Nat.cast_inj] at same
  obtain ⟨⟨investidor, taxa, quantia⟩, rfl⟩ := same
  rw [Leilao.licitacao_of_alocada kept, Licitacao.ext investidor taxa quantia]

/-- An update after which lookups are exact was in order. -/
theorem Exchange.Relato.emOrdem_of_noLugar {u : Relato R} (agora : LocalDateTime)
    (h : registo.Numerada)
    (hm : m.NoLugar) (same : m.Do registo) (fits : u.Do aberto)
    (after : ∀ q : Directory.Pergunta, q.NaoNegativa →
      q.NoLugar (u.lido.fiel agora registo) (m.recebe aberto u)) : u.EmOrdem registo aberto := by
  have records := Directory.Pergunta.numerada_of_noLugar after
  refine ⟨(u.numera_leiloes h.leiloes).1 records.leiloes,
    (u.numera_emissoes h.emissoes).1 records.emissoes, ?_, ?_⟩
  · cases u with
    | licitacao idL id l =>
        intro leilao found
        exact Directory.LicitacaoNoLugar.appended same.leiloes hm.leiloes found rfl fun n i =>
          after (.licitacaoLeilao n i) ⟨Int.natCast_nonneg _, Int.natCast_nonneg _⟩
    | terminaLeilao idL sucesso alocados =>
        cases alocados with
        | none => trivial
        | some ls =>
            obtain ⟨leilao, rfl, rfl⟩ := fits _ _ _ rfl
            intro registado found origem same_auction
            cases same_auction
            obtain ⟨ms, sent, _⟩ := Java.get_of_map_eq same.leiloes.symm found
            obtain ⟨inside, _⟩ := Java.get_eq_ok.1 found
            lift idL to Nat using inside
            rw [Java.get_natCast] at found sent
            refine Leilao.alocadas_prefix (Directory.get_emPosicao found) ?_
              (Directory.get_emPosicao sent) fun i =>
                after (.licitacaoLeilao idL i) ⟨Int.natCast_nonneg _, Int.natCast_nonneg _⟩
            exact (Directory.Numeradas.map_fst_mantidas leilao).symm
    | _ => trivial
  · cases u with
    | emprestimo idL id investidor quantia =>
        intro emissao found
        exact Directory.LicitacaoNoLugar.appended same.emissoes hm.emissoes found rfl fun n i =>
          after (.licitacaoEmissao n i) ⟨Int.natCast_nonneg _, Int.natCast_nonneg _⟩
    | _ => trivial

end Entregas

section Corridas

variable {R : Type} [JavaFloat R] [Gson R] {nomes registadas : List String}
  {t : List (Transicao R)} {s s' : Sistema R}

/-- The bids delivered in a run, for each company. -/
def Sistema.numeradas (t : List (Transicao R)) (c : String) : Directory.Numeradas R :=
  PeerLanding.numeradas c (percurso c t)

/-- The update about a hosted company that the step gets through, if there is one, puts everything
it adds at the position of its number. -/
def Transicao.EmOrdem (nomes : List String) (e : Transicao R) : Prop :=
  ∀ c ∈ nomes, ∀ u ∈ Momento.chegada c (e.map (·.ficha c)), ∀ registo ∈ e.pre.diretorio c,
    u.EmOrdem registo (e.pre.leiloes c)

/-- All records and all bids delivered are at the positions of their numbers. -/
def Sistema.NoLugar (t : List (Transicao R)) (s : Sistema R) : Prop :=
  ∀ c, ∀ registo ∈ s.diretorio c, registo.Numerada ∧ (numeradas t c).NoLugar

theorem Sistema.NoLugar.todasExatas (h : Sistema.Run nomes registadas t s)
    (place : Sistema.NoLugar t s) : s.diretorio.TodasExatas (Sistema.numeradas t) := by
  rw [Directory.todasExatas_iff]
  intro c registo hr q hq
  obtain ⟨records, bids⟩ := place c registo hr
  exact Directory.Pergunta.noLugar_of_numerada records bids (Run.numeradas_do h c registo hr) hq

theorem Sistema.NoLugar.passa (h : Sistema.Run nomes registadas t s) {l : Passo R}
    {r : Resultado} (step : s.Passa l r s') (place : Sistema.NoLugar t s)
    (in_order : Transicao.EmOrdem nomes ⟨s, l, r, s'⟩) :
    Sistema.NoLugar (t ++ [⟨s, l, r, s'⟩]) s' := by
  intro c registo hr
  obtain ⟨_, same, told⟩ | ⟨u, sent, changed, told⟩ := Run.entrega_cases h step c
  · rw [Sistema.numeradas, told]
    exact place c registo (same ▸ hr)
  · rw [changed, Option.mem_def, Option.map_eq_some_iff] at hr
    obtain ⟨antes, ha, rfl⟩ := hr
    obtain ⟨records, bids⟩ := place c antes ha
    have hosted : c ∈ nomes := by
      by_contra elsewhere
      have silent := (Run.alheia h elsewhere).chegada step
      cases silent.symm.trans sent
    have ordered := in_order c hosted u sent antes ha
    rw [Sistema.numeradas, told]
    exact ⟨records.recebe ordered,
      bids.recebe (Run.numeradas_do h c antes ha) (Momento.chegada_do sent) ordered⟩

theorem Sistema.NoLugar.emOrdem (h : Sistema.Run nomes registadas t s) {l : Passo R}
    {r : Resultado} (step : s.Passa l r s') (place : Sistema.NoLugar t s)
    (after : s'.diretorio.TodasExatas (Sistema.numeradas (t ++ [⟨s, l, r, s'⟩]))) :
    Transicao.EmOrdem nomes ⟨s, l, r, s'⟩ := by
  rw [Directory.todasExatas_iff] at after
  intro c _ u hu registo hr
  obtain ⟨none_sent, _⟩ | ⟨v, sent, changed, told⟩ := Run.entrega_cases h step c
  · cases none_sent.symm.trans hu
  · cases sent.symm.trans hu
    obtain ⟨records, bids⟩ := place c registo hr
    have delivered := Run.numeradas_do h c registo hr
    refine Relato.emOrdem_of_noLugar l.agoraDiretorio records bids delivered
      (Momento.chegada_do sent) fun q hq => ?_
    have exact_lookup := after c _ (by rw [changed, Option.mem_def.1 hr]; rfl) q hq
    rwa [Sistema.numeradas, told] at exact_lookup

/-- Whatever calls are lost, the Directory's records carry the numbers that they were sent with,
and their bids are those delivered, each with the number that the exchange gave it; a lookup is
exact when it names no company, or one that the Directory has and where it looks positions are
these numbers; and all lookups of known companies without negative indices are exact in all states
of a run exactly when every update that gets through is in order. -/
theorem exactLookups (h : Sistema.Run nomes registadas t s) :
    (∀ c ∈ nomes, ∀ registo ∈ s.diretorio c,
      registo.NumerosEnviados (chegadas c (percurso c t)) ∧ (Sistema.numeradas t c).Do registo) ∧
    (∀ (nome : Option String) (q : Directory.Pergunta),
      q.Exata s.diretorio (Sistema.numeradas t) nome ↔
        nome = none ∨ ∃ c ∈ nome, ∃ registo ∈ s.diretorio c,
          q.NoLugar registo (Sistema.numeradas t c)) ∧
    ((s.diretorio.TodasExatas (Sistema.numeradas t) ∧
        ∀ u e, u ++ [e] <+: t → e.pre.diretorio.TodasExatas (Sistema.numeradas u)) ↔
      ∀ e ∈ t, Transicao.EmOrdem nomes e) := by
  refine ⟨?_, fun nome q => q.exata_iff, ?_⟩
  · intro c hc registo hr
    exact ⟨(h.percurso hc).numerosEnviados registo hr, Sistema.Run.numeradas_do h c registo hr⟩
  · refine Runs.Run.history_iff (fun t s => s.diretorio.TodasExatas (Sistema.numeradas t))
      (fun t s => Sistema.Run nomes registadas t s ∧ Sistema.NoLugar t s)
      (Transicao.EmOrdem nomes) h ⟨.nil, ?_⟩ ?_ ?_ ?_
    · intro c registo hr
      rw [Directory.eq_novo_of_vazio hr]
      exact ⟨Directory.Empresa.numerada_novo c, by simp [Sistema.numeradas, percurso, numeradas],
        by simp [Sistema.numeradas, percurso, numeradas]⟩
    · exact fun t s place => place.2.todasExatas place.1
    · exact fun t s l r s' run step ordered place =>
        ⟨run.snoc step, place.2.passa run step ordered⟩
    · exact fun t s l r s' run step place after => place.2.emOrdem run step after

end Corridas

/-- Three bids, of which the settlement keeps the last one alone. -/
def singleSteps : List (Passo Binary32) :=
  [.pedido (.em 1) (.leilao "CanecaLda" 1000 (.intBitsToFloat 0x3DCCCCCD)),
    .pedido (.em 2) (.licitar "CanecaLda" "ana" 600 (.intBitsToFloat 0x3D4CCCCD)),
    .pedido (.em 3) (.licitar "CanecaLda" "rui" 500 (.intBitsToFloat 0x3D4CCCCD)),
    .pedido (.em 4) (.licitar "CanecaLda" "eva" 1000 (.intBitsToFloat 0x3D23D70A)),
    .terminaLeilao (.em 5) ⟨"CanecaLda", 0, 0⟩]

/-- It is number 2, and a GET of bid 0 answers with it. -/
example : (Sistema.corrida ["CanecaLda", "SapatoLda"] Directory.nomes singleSteps).map
    (fun x => ((Sistema.numeradas x.1 "CanecaLda").leiloes.map (·.map (·.2)),
      Directory.getLicitacaoLeilao (some "CanecaLda") 0 0 x.2.diretorio,
      Directory.getLicitacaoLeilao (some "CanecaLda") 0 2 x.2.diretorio)) =
    some ([[2]], .ok (.entity ⟨0, some "eva", .intBitsToFloat 0x3D23D70A, 1000⟩),
      .ok .notFound) := by
  decide +kernel

/-- The state after `lostSteps`. -/
abbrev lostState : Sistema Binary32 :=
  ((Sistema.corrida ["CanecaLda", "SapatoLda"] Directory.nomes lostSteps).get lostSteps_taken).2

/-- The record of the second auction, whose POST was the first to get through. -/
abbrev secondRecord : Directory.Leilao Binary32 :=
  ⟨1, Binary32.zero, 2000, "CanecaLda", (LocalDateTime.atNano 3).format, false, true, []⟩

/-- After the lost POST a GET of auction 0 answers with auction 1. A negative index and a company
that is not registered raise exceptions. -/
theorem exactLookups_lost :
    ∃ (t : List (Transicao Binary32)) (s : Sistema Binary32),
      Sistema.Run ["CanecaLda", "SapatoLda"] Directory.nomes t s ∧
        Directory.getLeilao (some "CanecaLda") 0 s.diretorio = .ok (.entity secondRecord) ∧
        ¬(Directory.Pergunta.leilao 0).Exata s.diretorio (Sistema.numeradas t)
          (some "CanecaLda") ∧
        Directory.getLeilao (some "CanecaLda") (-1) s.diretorio = .error .indexOutOfBounds ∧
        ¬(Directory.Pergunta.leilao (-1)).Exata s.diretorio (Sistema.numeradas t)
          (some "CanecaLda") ∧
        Directory.getLeilao (some "PratosLda") 0 s.diretorio = .error .nullPointer ∧
        ¬(Directory.Pergunta.leilao 0).Exata s.diretorio (Sistema.numeradas t)
          (some "PratosLda") := by
  have run := Sistema.run_corrida lostSteps_taken
  have other : Directory.getLeilao (some "CanecaLda") 0 lostState.diretorio =
      .ok (.entity secondRecord) := by decide +kernel
  have negative : Directory.getLeilao (some "CanecaLda") (-1) lostState.diretorio =
      .error .indexOutOfBounds := by decide +kernel
  have unknown : Directory.getLeilao (some "PratosLda") 0 lostState.diretorio =
      .error .nullPointer := by decide +kernel
  refine ⟨_, _, run, other, ?_, negative, ?_, unknown, ?_⟩
  · intro exact_answer
    rw [Directory.Pergunta.Exata, other] at exact_answer
    obtain ⟨c, _, empresa, _, _, numbered⟩ := exact_answer
    exact absurd numbered (by decide)
  · intro exact_answer
    rw [Directory.Pergunta.Exata, negative] at exact_answer
    exact exact_answer
  · intro exact_answer
    rw [Directory.Pergunta.Exata, unknown] at exact_answer
    exact exact_answer

theorem exactLookups_lostSteps :
    ∃ (t : List (Transicao Binary32)) (s : Sistema Binary32),
      Sistema.Run ["CanecaLda", "SapatoLda"] Directory.nomes t s ∧ t.length = 4 ∧
        ((s.diretorio.TodasExatas (Sistema.numeradas t) ∧
            ∀ u e, u ++ [e] <+: t → e.pre.diretorio.TodasExatas (Sistema.numeradas u)) ↔
          ∀ e ∈ t, Transicao.EmOrdem ["CanecaLda", "SapatoLda"] e) := by
  have run := Sistema.run_corrida lostSteps_taken
  exact ⟨_, _, run, by decide, (exactLookups run).2.2⟩

end PeerLanding
