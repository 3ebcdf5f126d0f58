import PeerLanding.Notices
import PeerLanding.Separators

/-! What a client subscribes to, and which notices get through. A subscription gets every text
that it begins. -/

namespace PeerLanding

open Exchange

namespace Client

/-- `s.split(" ")`. -/
def split (s : String) : List String := (Separators.parts ' ' s.toList).map String.ofList

theorem not_mem_of_mem_split {s w : String} (h : w ∈ split s) : ' ' ∉ w.toList := by
  obtain ⟨cs, mem, rfl⟩ := List.mem_map.1 h
  rw [String.toList_ofList]
  exact Separators.not_mem_of_mem_parts mem

def Notifier.subscricao (tipo empresas : String) : List String :=
  let array := split empresas
  (if array.length == 0 then [tipo] else []) ++
    (array.take 10).map fun empresa => tipo ++ "-" ++ empresa ++ "-"

/-- A `SUB` socket with these subscriptions. -/
def recebe (subscricoes : List String) (texto : String) : Bool :=
  subscricoes.any fun s => s.toList.isPrefixOf texto.toList

end Client

namespace Exchange.Aviso

variable {R : Type} {mostra : R → String}

def palavra : Assunto R → String
  | .comecou => "Começou"
  | .licitacao _ => "nova"
  | .terminado => "Terminado"

def resto (mostra : R → String) : Recurso → Assunto R → String
  | .leilao, .comecou => " um leilão"
  | .leilao, .licitacao l => " licitação de: " ++ ((l.investidor ++ (" juro:" ++ (" " ++
      mostra l.taxa))) ++ (" quantia:" ++ (" " ++ toString l.quantia)))
  | .leilao, .terminado => ""
  | .emissao, .comecou => " uma emissao"
  | .emissao, .licitacao l =>
      " licitação de: " ++ (l.investidor ++ (" quantia:" ++ (" " ++ toString l.quantia)))
  | .emissao, .terminado => ""

theorem texto_eq (a : Aviso R) : a.texto mostra = a.tipo.nome ++ "-" ++ a.empresa ++ "-" ++
    (palavra a.assunto ++ resto mostra a.tipo a.assunto) := by
  have leilao : "leilao-" = "leilao" ++ "-" := rfl
  have emissao : "emissao-" = "emissao" ++ "-" := rfl
  have auction : "-Começou um leilão" = "-" ++ ("Começou" ++ " um leilão") := rfl
  have emission : "-Começou uma emissao" = "-" ++ ("Começou" ++ " uma emissao") := rfl
  have bid : "-nova licitação de: " = "-" ++ ("nova" ++ " licitação de: ") := rfl
  have ended : "-Terminado" = "-" ++ ("Terminado" ++ "") := rfl
  have juro : " juro: " = " juro:" ++ " " := rfl
  have quantia : " quantia: " = " quantia:" ++ " " := rfl
  obtain ⟨tipo, empresa, assunto⟩ := a
  cases tipo <;> cases assunto <;> dsimp only [texto, Recurso.nome, palavra, resto]
  · rw [leilao, auction]
    simp only [String.append_assoc]
  · rw [leilao, bid, juro, quantia]
    simp only [String.append_assoc]
  · rw [leilao, ended]
    simp only [String.append_assoc]
  · rw [emissao, emission]
    simp only [String.append_assoc]
  · rw [emissao, bid, quantia]
    simp only [String.append_assoc]
  · rw [emissao, ended]
    simp only [String.append_assoc]

theorem not_mem_palavra (assunto : Assunto R) : '-' ∉ (palavra assunto).toList := by
  cases assunto <;> simp only [palavra] <;> decide

theorem resto_blank (tipo : Recurso) (assunto : Assunto R) :
    (resto mostra tipo assunto).toList = [] ∨
      ∃ tail, (resto mostra tipo assunto).toList = ' ' :: tail := by
  have auction : " um leilão".toList = ' ' :: "um leilão".toList := by decide
  have emission : " uma emissao".toList = ' ' :: "uma emissao".toList := by decide
  have bid (s : String) : (" licitação de: " ++ s).toList =
      ' ' :: ("licitação de: ".toList ++ s.toList) := by
    rw [String.toList_append]
    exact congrArg (· ++ s.toList) (show _ = ' ' :: "licitação de: ".toList by decide)
  cases assunto with
  | comecou =>
      cases tipo with
      | leilao => exact .inr ⟨_, auction⟩
      | emissao => exact .inr ⟨_, emission⟩
  | licitacao l => cases tipo <;> exact .inr ⟨_, bid _⟩
  | terminado => cases tipo <;> exact .inl rfl

/-- What stands before the second separator. -/
def cabecalho (a : Aviso R) : List Char :=
  a.tipo.nome.toList ++ '-' :: (a.empresa.toList ++ ['-'])

theorem texto_toList (a : Aviso R) : (a.texto mostra).toList = a.cabecalho ++
    ((palavra a.assunto).toList ++ (resto mostra a.tipo a.assunto).toList) := by
  have sep : "-".toList = ['-'] := by decide
  simp only [texto_eq, String.toList_append, sep, cabecalho, List.append_assoc, List.cons_append,
    List.nil_append]

/-! ### The text of a notice -/

theorem repr_inj {m n : Nat} (h : m.repr = n.repr) : m = n := by
  have digits := congrArg (fun s => Nat.ofDigitChars 10 s.toList 0) h
  simpa only [Nat.toList_repr, Nat.ofDigitChars_ten_toDigits] using digits

theorem not_mem_repr {c : Char} (hc : c.isDigit = false) (n : Nat) : c ∉ n.repr.toList := by
  intro mem
  rw [Nat.toList_repr] at mem
  rw [Nat.isDigit_of_mem_toDigits (by decide) (by decide) mem] at hc
  cases hc

theorem not_mem_quantia (quantia : Int32) : ' ' ∉ (toString quantia).toList := by
  change ' ' ∉ quantia.toInt.repr.toList
  cases quantia.toInt with
  | ofNat n => exact not_mem_repr (by decide) n
  | negSucc n =>
      have sign : "-".toList = ['-'] := by decide
      simpa [Int.repr, sign] using not_mem_repr (by decide) (n + 1)

theorem quantia_inj {quantia quantia' : Int32} :
    toString quantia = toString quantia' ↔ quantia = quantia' := by
  have sign : "-".toList = ['-'] := by decide
  have unsigned (n m : Nat) : n.repr ≠ "-" ++ (m + 1).repr := by
    intro same
    refine not_mem_repr (c := '-') (by decide) n ?_
    rw [same, String.toList_append, sign]
    exact List.mem_cons_self
  constructor
  · intro h
    change quantia.toInt.repr = quantia'.toInt.repr at h
    rw [← Int32.toInt_inj]
    cases hq : quantia.toInt <;> cases hq' : quantia'.toInt <;> rw [hq, hq'] at h
    · exact congrArg Int.ofNat (repr_inj h)
    · exact absurd h (unsigned _ _)
    · exact absurd h.symm (unsigned _ _)
    · have digits := congrArg String.toList h
      simp only [Int.repr, String.toList_append, List.append_cancel_left_eq, String.toList_inj]
        at digits
      exact congrArg Int.negSucc (Nat.succ_injective (repr_inj digits))
  · rintro rfl
    rfl

theorem campo_inj {xs ys key z w : String} (hz : ' ' ∉ z.toList) (hw : ' ' ∉ w.toList) :
    xs ++ (key ++ (" " ++ z)) = ys ++ (key ++ (" " ++ w)) ↔ xs = ys ∧ z = w := by
  have blank : " ".toList = [' '] := by decide
  rw [← String.toList_inj, ← String.toList_inj, ← String.toList_inj]
  simp only [String.toList_append, blank, List.cons_append, List.nil_append]
  exact Separators.last_field_inj hz hw

theorem append_left_inj (key : String) {z w : String} : key ++ z = key ++ w ↔ z = w := by
  rw [← String.toList_inj, String.toList_append, String.toList_append, List.append_cancel_left_eq,
    String.toList_inj]

def letra : Assunto R → Char
  | .comecou => 'C'
  | .licitacao _ => 'n'
  | .terminado => 'T'

theorem head_palavra (x : Assunto R) (s : String) :
    (palavra x ++ s).toList.head? = some (letra x) := by
  have first : (palavra x).toList.head? = some (letra x) := by
    cases x with
    | comecou => exact (show "Começou".toList.head? = some 'C' by decide)
    | licitacao l => exact (show "nova".toList.head? = some 'n' by decide)
    | terminado => exact (show "Terminado".toList.head? = some 'T' by decide)
  rw [String.toList_append, List.head?_append, first]
  rfl

/-- Companies have names without the separator, and a bid on an emission has no rate. -/
structure Regular [JavaFloat R] (a : Aviso R) : Prop where
  empresa : '-' ∉ a.empresa.toList
  semTaxa : a.SemTaxa

theorem leilao_inj (spaceless : ∀ x, ' ' ∉ (mostra x).toList) (inj : Function.Injective mostra)
    {l m : Licitacao R} (same : resto mostra .leilao (.licitacao l) =
      resto mostra .leilao (.licitacao m)) : l = m := by
  obtain ⟨investidor, taxa, quantia⟩ := l
  obtain ⟨investidor', taxa', quantia'⟩ := m
  have last := (campo_inj (not_mem_quantia quantia) (not_mem_quantia quantia')).1
    ((append_left_inj " licitação de: ").1 same)
  have fields := (campo_inj (spaceless taxa) (spaceless taxa')).1 last.1
  obtain rfl := fields.1
  obtain rfl := inj fields.2
  obtain rfl := quantia_inj.1 last.2
  rfl

theorem emissao_inj {l m : Licitacao R} (same : resto mostra .emissao (.licitacao l) =
      resto mostra .emissao (.licitacao m)) (taxa : l.taxa = m.taxa) : l = m := by
  obtain ⟨investidor, taxa, quantia⟩ := l
  obtain ⟨investidor', taxa', quantia'⟩ := m
  have last := (campo_inj (not_mem_quantia quantia) (not_mem_quantia quantia')).1
    ((append_left_inj " licitação de: ").1 same)
  obtain rfl := last.1
  obtain rfl := quantia_inj.1 last.2
  obtain rfl := taxa
  rfl

theorem assunto_inj [JavaFloat R] (spaceless : ∀ x, ' ' ∉ (mostra x).toList)
    (inj : Function.Injective mostra) {tipo : Recurso} {x y : Assunto R}
    (hx : tipo = .emissao → ∀ l, x = .licitacao l → l.taxa = JavaFloat.zero)
    (hy : tipo = .emissao → ∀ l, y = .licitacao l → l.taxa = JavaFloat.zero)
    (same : palavra x ++ resto mostra tipo x = palavra y ++ resto mostra tipo y) : x = y := by
  have heads : letra x = letra y := by
    have heads := congrArg (fun s => s.toList.head?) same
    simpa only [head_palavra, Option.some.injEq] using heads
  cases x with
  | comecou =>
      cases y with
      | comecou => rfl
      | licitacao l => exact absurd heads (by simp [letra])
      | terminado => exact absurd heads (by simp [letra])
  | licitacao l =>
      cases y with
      | comecou => exact absurd heads (by simp [letra])
      | licitacao m =>
          have rest := (append_left_inj "nova").1 same
          cases tipo with
          | leilao => rw [leilao_inj spaceless inj rest]
          | emissao => rw [emissao_inj rest ((hx rfl l rfl).trans (hy rfl m rfl).symm)]
      | terminado => exact absurd heads (by simp [letra])
  | terminado =>
      cases y with
      | comecou => exact absurd heads (by simp [letra])
      | licitacao l => exact absurd heads (by simp [letra])
      | terminado => rfl

theorem nome_inj {tipo tipo' : Recurso} : tipo.nome = tipo'.nome ↔ tipo = tipo' := by
  cases tipo <;> cases tipo' <;> decide

theorem not_mem_nome (tipo : Recurso) : '-' ∉ tipo.nome.toList := by cases tipo <;> decide

theorem texto_inj [JavaFloat R] (spaceless : ∀ x, ' ' ∉ (mostra x).toList)
    (inj : Function.Injective mostra) {a b : Aviso R} (ha : a.Regular) (hb : b.Regular) :
    a.texto mostra = b.texto mostra ↔ a = b := by
  obtain ⟨tipo, c, x⟩ := a
  obtain ⟨tipo', c', y⟩ := b
  constructor
  · intro same
    rw [← String.toList_inj, texto_toList, texto_toList] at same
    simp only [cabecalho, List.append_assoc, List.cons_append, List.nil_append] at same
    obtain ⟨nome, rest⟩ := (Separators.append_sep_inj (not_mem_nome _) (not_mem_nome _)).1 same
    obtain ⟨empresa, said⟩ := (Separators.append_sep_inj ha.empresa hb.empresa).1 rest
    obtain rfl := nome_inj.1 (String.toList_inj.1 nome)
    obtain rfl : c = c' := String.toList_inj.1 empresa
    rw [← String.toList_append, ← String.toList_append, String.toList_inj] at said
    obtain rfl : x = y := assunto_inj spaceless inj ha.semTaxa hb.semTaxa said
    rfl
  · intro same
    rw [same]

end Exchange.Aviso

namespace Client

variable {R : Type} {mostra : R → String} {tipo empresas w : String} {a : Aviso R}

theorem filtro_toList (tipo w : String) :
    (tipo ++ "-" ++ w ++ "-").toList = tipo.toList ++ '-' :: (w.toList ++ ['-']) := by
  have sep : "-".toList = ['-'] := by decide
  simp only [String.toList_append, sep, List.append_assoc, List.cons_append, List.nil_append]

theorem filtro_iff (htipo : ' ' ∉ tipo.toList) (hw : ' ' ∉ w.toList)
    (hc : '-' ∉ a.empresa.toList) :
    (tipo ++ "-" ++ w ++ "-").toList <+: (a.texto mostra).toList ↔
      tipo = a.tipo.nome ∧ w = a.empresa := by
  have header : tipo.toList ++ '-' :: (w.toList ++ ['-']) <+: a.cabecalho ↔
      tipo = a.tipo.nome ∧ w = a.empresa := by
    rw [Aviso.cabecalho, Separators.two_parts_prefix (Aviso.not_mem_nome a.tipo) hc,
      String.toList_inj, String.toList_inj]
  rw [filtro_toList, Aviso.texto_toList, ← header]
  constructor
  · intro begins
    have silent : ' ' ∉ tipo.toList ++ '-' :: w.toList := by simp [htipo, hw]
    have whole : tipo.toList ++ '-' :: (w.toList ++ ['-']) =
        tipo.toList ++ '-' :: w.toList ++ ['-'] := by simp
    rw [whole] at begins ⊢
    exact Separators.prefix_of_word silent (by decide) (Aviso.not_mem_palavra a.assunto)
      (Aviso.resto_blank a.tipo a.assunto) begins
  · intro begins
    exact begins.trans (List.prefix_append _ _)

/-- What a client gets by one call of `subscricao`. -/
theorem recebe_subscricao (htipo : ' ' ∉ tipo.toList) (hc : '-' ∉ a.empresa.toList) :
    recebe (Notifier.subscricao tipo empresas) (a.texto mostra) = true ↔
      (split empresas = [] ∧ tipo.toList <+: (a.texto mostra).toList) ∨
        (tipo = a.tipo.nome ∧ a.empresa ∈ (split empresas).take 10) := by
  rw [recebe, Notifier.subscricao, List.any_append, Bool.or_eq_true]
  apply or_congr
  · cases split empresas <;> simp
  · rw [List.any_map, List.any_eq_true]
    constructor
    · rintro ⟨w, mem, begins⟩
      have word := not_mem_of_mem_split (List.mem_of_mem_take mem)
      obtain ⟨same, rfl⟩ := (filtro_iff htipo word hc).1 (List.isPrefixOf_iff_prefix.1 begins)
      exact ⟨same, mem⟩
    · rintro ⟨same, mem⟩
      have word := not_mem_of_mem_split (List.mem_of_mem_take mem)
      exact ⟨a.empresa, mem, List.isPrefixOf_iff_prefix.2
        ((filtro_iff htipo word hc).2 ⟨same, rfl⟩)⟩

end Client

end PeerLanding
