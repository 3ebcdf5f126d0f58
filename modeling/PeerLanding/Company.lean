import PeerLanding.Frame

/-! The exchange and the Directory as one hosted company sees them: `Ficha.Passa` lists
what a step can do to a company, and `ficha_passa` says that every step of the whole
system does one of these. -/

namespace PeerLanding

open Exchange

variable {R : Type}

variable [JavaFloat R]

/-- What a step can do to company `c`, which the exchange hosts. -/
inductive Ficha.Passa (c : String) : Ficha R → Passo R → Resultado → Ficha R → Prop
  | alheio {f : Ficha R} {l : Passo R} {r : Resultado} {novaRef : Nat}
      (outra : l.empresa ≠ some c) (depois : f.novaRef ≤ novaRef) :
      Passa c f l r { f with novaRef }
  | recusa {f : Ficha R} (amb : Ambiente) (p : Pedido R) :
      Passa c f (.pedido amb p) (.resposta false) f
  | leilao {f : Ficha R} (amb : Ambiente) {quantia : Int32} {juro : R}
      (livre : f.leilao = none) (multiplo : quantia % 1000 = 0)
      (finito : JavaFloat.isFinite juro = true) :
      Passa c f (.pedido amb (.leilao c quantia juro)) (.resposta true)
        (Ficha.relata { f with
          leilao := some (.novo f.novaRef juro quantia c amb.agora)
          terminaLeiloes :=
            f.terminaLeiloes ++ [⟨c, f.empresa.historicoLeiloes.length, f.novaRef⟩]
          novaRef := f.novaRef + 1 }
          amb fun registo => registo.addLeilao f.empresa.historicoLeiloes.length
            JavaFloat.zero quantia amb.agoraDiretorio false)
  | leilaoEspecial {f : Ficha R} (amb : Ambiente) {quantia : Int32} {juro : R}
      (livre : f.leilao = none) (multiplo : quantia % 1000 = 0)
      (especial : JavaFloat.isFinite juro = false) :
      Passa c f (.pedido amb (.leilao c quantia juro)) (.excecao .illegalArgument)
        { f with
          leilao := some (.novo f.novaRef juro quantia c amb.agora)
          terminaLeiloes :=
            f.terminaLeiloes ++ [⟨c, f.empresa.historicoLeiloes.length, f.novaRef⟩]
          novaRef := f.novaRef + 1 }
  | licitar {f : Ficha R} (amb : Ambiente) (investidor : String) {quantia : Int32} {juro : R}
      {leilao : Leilao R} (aberto : f.leilao = some leilao)
      (aceita : leilao.Aceita quantia juro) (finito : JavaFloat.isFinite juro = true) :
      Passa c f (.pedido amb (.licitar c investidor quantia juro)) (.resposta true)
        (Ficha.relata
          { f with leilao := some (leilao.comLicitacao ⟨investidor, juro, quantia⟩) }
          amb fun registo => registo.noLeilao f.empresa.historicoLeiloes.length
            (Directory.Leilao.recebe ⟨leilao.licitacoes.length, investidor, juro, quantia⟩))
  | licitarEspecial {f : Ficha R} (amb : Ambiente) (investidor : String) {quantia : Int32}
      {juro : R} {leilao : Leilao R} (aberto : f.leilao = some leilao)
      (aceita : leilao.Aceita quantia juro) (especial : JavaFloat.isFinite juro = false) :
      Passa c f (.pedido amb (.licitar c investidor quantia juro)) (.excecao .illegalArgument)
        { f with leilao := some (leilao.comLicitacao ⟨investidor, juro, quantia⟩) }
  | emissao {f : Ficha R} (amb : Ambiente) {quantia : Int32} {taxa : R}
      (pode : f.empresa.PodeEmitir quantia) (preco : f.empresa.taxaEmissao = .ok taxa)
      (finito : JavaFloat.isFinite taxa = true) :
      Passa c f (.pedido amb (.emissao c quantia)) (.resposta true)
        (Ficha.relata { f with
          emissao := some (.novo f.novaRef taxa quantia c amb.agora)
          terminaEmissoes :=
            f.terminaEmissoes ++ [⟨c, f.empresa.historicoEmissoes.length, f.novaRef⟩]
          novaRef := f.novaRef + 1 }
          amb fun registo => registo.addEmissao f.empresa.historicoEmissoes.length taxa
            quantia false [])
  | emissaoEspecial {f : Ficha R} (amb : Ambiente) {quantia : Int32} {taxa : R}
      (pode : f.empresa.PodeEmitir quantia) (preco : f.empresa.taxaEmissao = .ok taxa)
      (especial : JavaFloat.isFinite taxa = false) :
      Passa c f (.pedido amb (.emissao c quantia)) (.excecao .illegalArgument)
        { f with
          emissao := some (.novo f.novaRef taxa quantia c amb.agora)
          terminaEmissoes :=
            f.terminaEmissoes ++ [⟨c, f.empresa.historicoEmissoes.length, f.novaRef⟩]
          novaRef := f.novaRef + 1 }
  | emprestimo {f : Ficha R} (amb : Ambiente) (investidor : String) {quantia : Int32}
      {emissao : Emissao R} (aberta : f.emissao = some emissao) (multiplo : quantia % 100 = 0) :
      Passa c f (.pedido amb (.emprestimo c investidor quantia)) (.resposta true)
        (Ficha.relata
          { f with emissao := some (emissao.comLicitacao (.semTaxa investidor quantia)) }
          amb fun registo => registo.naEmissao f.empresa.historicoEmissoes.length
            (Directory.Emissao.recebe
              ⟨emissao.licitacoes.length, investidor, JavaFloat.zero, quantia⟩))
  | terminaLeilao {f : Ficha R} (amb : Ambiente) {thread : TerminaLeilao} {leilao : Leilao R}
      (por : thread ∈ f.terminaLeiloes) (dela : thread.empresa = c)
      (aberto : f.leilao = some leilao)
      (finito : (leilao.termina c thread.idL).2.finito = true) :
      Passa c f (.terminaLeilao amb thread) .fim
        (Ficha.relata { f with
          leilao := none
          terminaLeiloes := f.terminaLeiloes.erase thread
          empresa := f.empresa.comLeilao (leilao.termina c thread.idL).1 }
          amb fun registo => registo.noLeilao thread.idL
            (Directory.Leilao.encerra (leilao.termina c thread.idL).2.recebido))
  | terminaLeilaoEspecial {f : Ficha R} (amb : Ambiente) {thread : TerminaLeilao}
      {leilao : Leilao R} (por : thread ∈ f.terminaLeiloes) (dela : thread.empresa = c)
      (aberto : f.leilao = some leilao)
      (especial : (leilao.termina c thread.idL).2.finito = false) :
      Passa c f (.terminaLeilao amb thread) (.excecao .illegalArgument)
        { f with
          leilao := none
          terminaLeiloes := f.terminaLeiloes.erase thread
          empresa := f.empresa.comLeilao (leilao.termina c thread.idL).1 }
  | terminaLeilaoNulo {f : Ficha R} (amb : Ambiente) {thread : TerminaLeilao}
      (por : thread ∈ f.terminaLeiloes) (dela : thread.empresa = c)
      (fechado : f.leilao = none) :
      Passa c f (.terminaLeilao amb thread) (.excecao .nullPointer)
        { f with terminaLeiloes := f.terminaLeiloes.erase thread }
  | terminaEmissao {f : Ficha R} (amb : Ambiente) {thread : TerminaEmissao}
      {emissao : Emissao R} (por : thread ∈ f.terminaEmissoes) (dela : thread.empresa = c)
      (aberta : f.emissao = some emissao) :
      Passa c f (.terminaEmissao amb thread) .fim
        (Ficha.relata { f with
          emissao := none
          terminaEmissoes := f.terminaEmissoes.erase thread
          empresa := f.empresa.comEmissao (emissao.termina c thread.idL).1 }
          amb fun registo => registo.naEmissao thread.idL
            (Directory.Emissao.encerra (emissao.termina c thread.idL).2.recebido))
  | terminaEmissaoNula {f : Ficha R} (amb : Ambiente) {thread : TerminaEmissao}
      (por : thread ∈ f.terminaEmissoes) (dela : thread.empresa = c)
      (fechada : f.emissao = none) :
      Passa c f (.terminaEmissao amb thread) (.excecao .nullPointer)
        { f with terminaEmissoes := f.terminaEmissoes.erase thread }

namespace Sistema

/-- What follows from the end of a program for the company `c`. -/
def Acompanha [Gson R] {α : Type} (c : String) (f : Ficha R) (l : Passo R)
    (fim : α → Resultado) (x : EStateM.Result Excecao (Sistema R) α) : Prop :=
  match x with
  | .ok a s' => f.Passa c l (fim a) (s'.ficha c)
  | .error e s' => f.Passa c l (.excecao e) (s'.ficha c)

variable [Gson R] {s : Sistema R} {c : String} {empresa : Empresa R} {amb : Ambiente}

theorem acompanha_leilao (he : s.empresas c = some empresa) (quantia : Int32) (juro : R) :
    Acompanha c (s.ficha c) (.pedido amb (.leilao c quantia juro)) .resposta
      ((leilao amb c quantia juro).run s) := by
  by_cases ha : s.leiloes c = none ∧ quantia % 1000 = 0
  · rw [leilao_aceita ha.1 ha.2]
    cases hf : JavaFloat.isFinite juro with
    | true =>
        have step := Ficha.Passa.leilao (c := c) (f := s.ficha c) amb ha.1 ha.2 hf
        simp only [he, Acompanha, if_true, relata_ficha_self]
        simpa [ficha, he] using step
    | false =>
        have step := Ficha.Passa.leilaoEspecial (c := c) (f := s.ficha c) amb ha.1 ha.2 hf
        simpa [ficha, he, hf, Acompanha] using step
  · rw [leilao_rejeita (by tauto)]
    exact .recusa amb _

theorem acompanha_licitar (he : s.empresas c = some empresa) (investidor : String)
    (quantia : Int32) (juro : R) :
    Acompanha c (s.ficha c) (.pedido amb (.licitar c investidor quantia juro)) .resposta
      ((licitar amb c investidor quantia juro).run s) := by
  by_cases ha : ∃ leilao, s.leiloes c = some leilao ∧ leilao.Aceita quantia juro
  · obtain ⟨leilao, hl, ha⟩ := ha
    rw [licitar_aceita hl ha]
    cases hf : JavaFloat.isFinite juro with
    | true =>
        have step := Ficha.Passa.licitar (c := c) (f := s.ficha c) amb investidor hl ha hf
        simp only [he, Acompanha, if_true, relata_ficha_self]
        simpa [ficha, he] using step
    | false =>
        have step := Ficha.Passa.licitarEspecial (c := c) (f := s.ficha c) amb investidor
          hl ha hf
        simpa [ficha, he, hf, Acompanha] using step
  · rw [licitar_rejeita (by simpa using ha)]
    exact .recusa amb _

theorem acompanha_emprestimo (he : s.empresas c = some empresa) (investidor : String)
    (quantia : Int32) :
    Acompanha c (s.ficha c) (.pedido amb (.emprestimo c investidor quantia)) .resposta
      ((emprestimo amb c investidor quantia).run s) := by
  by_cases ha : s.emissoes c = none ∨ quantia % 100 ≠ 0
  · rw [emprestimo_rejeita ha]
    exact .recusa amb _
  · rw [not_or, not_not, ← ne_eq, Option.ne_none_iff_exists'] at ha
    obtain ⟨⟨emissao, hl⟩, multiplo⟩ := ha
    have step := Ficha.Passa.emprestimo (c := c) (f := s.ficha c) amb investidor hl multiplo
    rw [emprestimo_aceita hl multiplo]
    simp only [he, Acompanha, relata_ficha_self]
    simpa [ficha, he] using step

theorem acompanha_emissao (he : s.empresas c = some empresa) (quantia : Int32) :
    Acompanha c (s.ficha c) (.pedido amb (.emissao c quantia)) .resposta
      ((emissao amb c quantia).run s) := by
  by_cases ha : empresa.PodeEmitir quantia
  · obtain ⟨taxa, ht⟩ := Empresa.taxaEmissao_ok ha
    rw [emissao_aceita he ha ht]
    have same : (s.ficha c).empresa = empresa := by simp [ficha, he]
    cases hf : JavaFloat.isFinite taxa with
    | true =>
        have step := Ficha.Passa.emissao (c := c) (f := s.ficha c) amb (same ▸ ha)
          (same ▸ ht) hf
        simp only [Acompanha, if_true, relata_ficha_self]
        simpa [ficha, he] using step
    | false =>
        have step := Ficha.Passa.emissaoEspecial (c := c) (f := s.ficha c) amb (same ▸ ha)
          (same ▸ ht) hf
        simpa [ficha, he, hf, Acompanha] using step
  · rw [emissao_rejeita (by simpa [he] using ha)]
    exact .recusa amb _

theorem acompanha_terminaLeilao {thread : TerminaLeilao}
    (he : s.empresas thread.empresa = some empresa) (por : thread ∈ s.terminaLeiloes) :
    Acompanha thread.empresa (s.ficha thread.empresa) (.terminaLeilao amb thread)
      (fun _ => .fim)
      ((thread.run amb).run { s with terminaLeiloes := s.terminaLeiloes.erase thread }) := by
  have mine : thread ∈ (s.ficha thread.empresa).terminaLeiloes := by simp [ficha, por]
  cases hl : s.leiloes thread.empresa with
  | none =>
      have step := Ficha.Passa.terminaLeilaoNulo amb mine rfl hl
      rw [terminaLeilao_nulo
        (s := { s with terminaLeiloes := s.terminaLeiloes.erase thread }) hl]
      simpa [ficha, Acompanha, List.erase_filter, hl] using step
  | some leilao =>
      rw [terminaLeilao_run
        (s := { s with terminaLeiloes := s.terminaLeiloes.erase thread }) hl]
      cases hf : (leilao.termina thread.empresa thread.idL).2.finito with
      | true =>
          have step := Ficha.Passa.terminaLeilao amb mine rfl hl hf
          simp only [he, hf, Acompanha, if_true, relata_ficha_self]
          simpa [ficha, he, List.erase_filter] using step
      | false =>
          have step := Ficha.Passa.terminaLeilaoEspecial amb mine rfl hl hf
          simpa [ficha, he, hf, Acompanha, List.erase_filter] using step

theorem acompanha_terminaEmissao {thread : TerminaEmissao}
    (he : s.empresas thread.empresa = some empresa) (por : thread ∈ s.terminaEmissoes) :
    Acompanha thread.empresa (s.ficha thread.empresa) (.terminaEmissao amb thread)
      (fun _ => .fim)
      ((thread.run amb).run { s with terminaEmissoes := s.terminaEmissoes.erase thread }) := by
  have mine : thread ∈ (s.ficha thread.empresa).terminaEmissoes := by simp [ficha, por]
  cases hl : s.emissoes thread.empresa with
  | none =>
      have step := Ficha.Passa.terminaEmissaoNula amb mine rfl hl
      rw [terminaEmissao_nulo
        (s := { s with terminaEmissoes := s.terminaEmissoes.erase thread }) hl]
      simpa [ficha, Acompanha, List.erase_filter, hl] using step
  | some emissao =>
      have step := Ficha.Passa.terminaEmissao amb mine rfl hl
      rw [terminaEmissao_run
        (s := { s with terminaEmissoes := s.terminaEmissoes.erase thread }) hl]
      simp only [he, Acompanha, relata_ficha_self]
      simpa [ficha, he, List.erase_filter] using step

theorem acompanha_atende (he : s.empresas c = some empresa) {p : Pedido R}
    (about : (Passo.pedido amb p).empresa = some c) :
    Acompanha c (s.ficha c) (.pedido amb p) .resposta ((atende amb p).run s) := by
  cases p with
  | licitar d investidor quantia juro =>
      cases about
      exact acompanha_licitar he investidor quantia juro
  | emprestimo d investidor quantia =>
      cases about
      exact acompanha_emprestimo he investidor quantia
  | emissao d quantia =>
      cases about
      exact acompanha_emissao he quantia
  | leilao d quantia juro =>
      cases about
      exact acompanha_leilao he quantia juro
  | outro => cases about

theorem Acompanha.of_corre {l : Passo R} {x : EStateM.Result Excecao (Sistema R) Unit}
    {r : Resultado} {s' : Sistema R} (h : Acompanha c (s.ficha c) l (fun _ => .fim) x)
    (hx : corre x = (r, s')) : (s.ficha c).Passa c l r (s'.ficha c) := by
  cases x <;> cases hx <;> exact h

/-- Every step of the exchange does to a company it hosts what `Ficha.Passa` says. -/
theorem ficha_passa (he : s.empresas c = some empresa) {l : Passo R} {r : Resultado}
    {s' : Sistema R} (h : s.Passa l r s') : (s.ficha c).Passa c l r (s'.ficha c) := by
  by_cases about : l.empresa = some c
  · cases l with
    | pedido amb p =>
        have follows := acompanha_atende he about
        simp only [Passa, proximo, Option.ite_none_right_eq_some] at h
        cases hx : (atende amb p).run s <;> rw [hx] at h follows <;> cases h.2 <;>
          exact follows
    | terminaLeilao amb thread =>
        cases about
        simp only [Passa, proximo, Option.ite_none_right_eq_some, Option.some.injEq] at h
        exact (acompanha_terminaLeilao he h.1).of_corre h.2
    | terminaEmissao amb thread =>
        cases about
        simp only [Passa, proximo, Option.ite_none_right_eq_some, Option.some.injEq] at h
        exact (acompanha_terminaEmissao he h.1).of_corre h.2
  · have spared := passa_poupa h about
    rw [spared.ficha]
    exact .alheio about spared.novaRef

end Sistema

section Percurso

variable [Gson R] {nomes registadas : List String} {c : String} {t : List (Transicao R)}
  {s : Sistema R}

def Ficha.inicial (c : String) (registadas : List String) : Ficha R where
  empresa := Empresa.novo c
  leilao := none
  emissao := none
  terminaLeiloes := []
  terminaEmissoes := []
  novaRef := 0
  registo := Directory.vazio registadas c

abbrev Ficha.Run (c : String) (registadas : List String) :
    List (Runs.Transition (Ficha R) (Passo R) Resultado) → Ficha R → Prop :=
  Runs.Run (Ficha.Passa c) (Ficha.inicial c registadas)

omit [JavaFloat R] [Gson R] in
theorem inicial_ficha (hc : c ∈ nomes) :
    (Sistema.inicial nomes registadas : Sistema R).ficha c = Ficha.inicial c registadas := by
  simp [Sistema.ficha, Sistema.inicial, Ficha.inicial, hc]

def percurso (c : String) (t : List (Transicao R)) :
    List (Runs.Transition (Ficha R) (Passo R) Resultado) :=
  t.map (Runs.Transition.map (·.ficha c))

omit [JavaFloat R] [Gson R] in
@[simp] theorem percurso_concat (c : String) (t : List (Transicao R)) (e : Transicao R) :
    percurso c (t ++ [e]) = percurso c t ++ [e.map (·.ficha c)] := by
  simp [percurso]

theorem Sistema.Run.hospeda (h : Sistema.Run nomes registadas t s) (hc : c ∈ nomes) :
    (s.empresas c).isSome := by
  refine Runs.Run.invariant (fun _ s => (s.empresas c).isSome) h ?_ ?_
  · simp [Sistema.inicial, hc]
  · intro t s l r s' _ he hs
    exact Sistema.passa_hospeda he hs

theorem percurso_run {u : List (Transicao R)} {s s' : Sistema R}
    (he : (s.empresas c).isSome) (h : Runs.Run Sistema.Passa s u s') :
    Runs.Run (Ficha.Passa c) (s.ficha c) (percurso c u) (s'.ficha c) := by
  refine (Runs.Run.map (·.ficha c) (fun s => (s.empresas c).isSome) h he ?_ ?_).1
  · intro s l r s' he hs
    exact Sistema.passa_hospeda he hs
  · intro s l r s' he hs
    exact Sistema.ficha_passa (Option.some_get he).symm hs

theorem Sistema.Run.percurso (h : Sistema.Run nomes registadas t s) (hc : c ∈ nomes) :
    Ficha.Run c registadas (percurso c t) (s.ficha c) := by
  rw [Ficha.Run, ← inicial_ficha hc]
  exact percurso_run (by simp [Sistema.inicial, hc]) h

end Percurso

end PeerLanding
