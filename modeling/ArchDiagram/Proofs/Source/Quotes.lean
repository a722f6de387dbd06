import ArchDiagram.Proofs.Source.Grammar
import ArchDiagram.Proofs.Text.Trim

namespace ArchDiagram.Source

namespace Language

variable {β γ : Type}

/-- Every text of the language has an even number of quote marks. -/
def Paired (L : Language β) : Prop := ∀ range u x, L range u x → u.count quoteMark % 2 = 0

namespace Paired

theorem pure {value : β} : (pure value : Language β).Paired := by
  intro range u x h
  obtain ⟨rfl, -⟩ := h
  rfl

theorem bind {L : Language β} {M : β → Language γ} (h : L.Paired) (hM : ∀ x, (M x).Paired) :
    (L >>= M).Paired := by
  intro range u y hm
  obtain ⟨v, w, x, rfl, hv, hw⟩ := hm
  have hfirst := h range v x hv
  have hsecond := hM x range w y hw
  rw [List.count_append]
  omega

theorem exactly {word : List Char} (h : word.count quoteMark % 2 = 0) : (exactly word).Paired := by
  intro range u x he
  obtain rfl := he
  exact h

theorem many {p : Char → Bool} (hp : p quoteMark = false) : (many p).Paired := by
  intro range u x h
  obtain ⟨hu, -⟩ := h
  have hnone : quoteMark ∉ u := by
    intro hm
    rw [hu _ hm] at hp
    contradiction
  rw [List.count_eq_zero_of_not_mem hnone]

theorem manyOne {p : Char → Bool} (hp : p quoteMark = false) : (manyOne p).Paired :=
  fun range u x h => many hp range u x h.1

theorem perhaps {L : Language β} (h : L.Paired) : (perhaps L).Paired := by
  intro range u y hm
  rcases hm with ⟨rfl, -⟩ | ⟨x, hx, -⟩
  · rfl
  · exact h range u x hx

theorem either {L M : Language β} (h : L.Paired) (hM : M.Paired) : (either L M).Paired := by
  intro range u x hm
  exact hm.elim (h range u x) (hM range u x)

theorem gap : gap.Paired := (many (by decide)).bind fun _ => pure

theorem someGap : someGap.Paired := (manyOne (by decide)).bind fun _ => pure

theorem word {p : Char → Bool} (hp : p quoteMark = false) : (word p).Paired :=
  (manyOne hp).bind fun _ => pure

/-- A label has one quote mark on either side and none inside. -/
theorem quoted : quoted.Paired := by
  intro range u x h
  obtain ⟨_, _, _, rfl, rfl, chars, _, _, rfl, hchars, _, _, _, rfl, rfl, rfl, -⟩ := h
  have hinside := many (p := isLabelChar) (by decide) range chars _ hchars
  simp only [List.count_append, List.count_singleton_self, List.count_nil]
  omega

theorem integer : integer.Paired := by
  intro range u n h
  obtain ⟨text, hu, -, -⟩ := h
  have hsign : (Language.perhaps (Language.exactly ['-'])).Paired := perhaps (exactly (by decide))
  have hnumeral : numeral.Paired := fun range u x h => manyOne (by decide) range u x h.1
  exact (hsign.bind fun _ => hnumeral.bind fun _ => pure) range u text hu

theorem keyed {key : List Char} {value : Language β} (hkey : key.count quoteMark % 2 = 0)
    (h : value.Paired) : (keyed key value).Paired :=
  (exactly hkey).bind fun _ => (exactly (by decide)).bind fun _ => h

theorem idAndLabel : idAndLabel.Paired :=
  (word (by decide)).bind fun _ => gap.bind fun _ => (exactly (by decide)).bind fun _ =>
    gap.bind fun _ => quoted.bind fun _ => pure

theorem field {key : List Char} {value : Language β} {M : β → Language γ}
    (hkey : key.count quoteMark % 2 = 0) (h : value.Paired) (hM : ∀ x, (M x).Paired) :
    (do Language.someGap; let x ← Language.keyed key value; M x : Language γ).Paired :=
  someGap.bind fun _ => (keyed hkey h).bind hM

theorem node : node.Paired := by
  refine (exactly (by decide)).bind fun _ => someGap.bind fun _ => idAndLabel.bind fun _ => ?_
  refine field (by decide) (word (by decide)) fun _ => ?_
  refine field (by decide) integer fun _ => field (by decide) integer fun _ => ?_
  have hsize {key : List Char} (hkey : key.count quoteMark % 2 = 0) :
      (Language.perhaps do Language.someGap; Language.keyed key Language.integer).Paired :=
    perhaps (someGap.bind fun _ => keyed hkey integer)
  exact (hsize (by decide)).bind fun _ => (hsize (by decide)).bind fun _ => pure

theorem arrowLink {arrow : List Char} (harrow : arrow.count quoteMark % 2 = 0)
    (bidirectional : Bool) :
    (arrowLink arrow bidirectional).Paired := by
  have hlabel : (Language.perhaps do
      Language.gap; Language.exactly [':']; Language.gap; Language.quoted).Paired :=
    perhaps (gap.bind fun _ => (exactly (by decide)).bind fun _ => gap.bind fun _ => quoted)
  exact (word (by decide)).bind fun _ => gap.bind fun _ => (exactly harrow).bind fun _ =>
    gap.bind fun _ => (word (by decide)).bind fun _ => hlabel.bind fun _ => pure

theorem container : container.Paired := by
  refine (exactly (by decide)).bind fun _ => someGap.bind fun _ => idAndLabel.bind fun _ => ?_
  refine field (by decide) (word (by decide)) fun _ => ?_
  refine field (by decide) integer fun _ => field (by decide) integer fun _ => ?_
  refine field (by decide) integer fun _ => field (by decide) integer fun _ => ?_
  have hclosing : (Language.perhaps do Language.gap; Language.exactly [closeBrace]).Paired :=
    perhaps (gap.bind fun _ => exactly (by decide))
  exact gap.bind fun _ => (exactly (by decide)).bind fun _ => hclosing.bind fun _ => pure

theorem lines {form : Language Statement} (h : form.Paired) : (lines form).Paired :=
  h.bind fun _ => gap.bind fun _ => pure

end Paired

end Language

open ArchDiagram.Source.Language

theorem Heading.paired (heading : Heading) : heading.language.Paired := by
  cases heading with
  | node => exact Paired.lines Paired.node
  | link =>
    exact Paired.lines
      ((Paired.arrowLink (by decide) true).either (Paired.arrowLink (by decide) false))
  | container => exact Paired.lines Paired.container
  | close => exact Paired.lines ((Paired.exactly (by decide)).bind fun _ => Paired.pure)
  | unknown => exact fun _ _ _ h => h.elim

theorem count_quoteMark_of_readStatement {line : List Char} {s : Statement}
    (h : readStatement line = .ok s) :
    line.count quoteMark % 2 = 0 :=
  (Heading.ofLine line).paired _ line s (language_of_readStatement h)

end ArchDiagram.Source
