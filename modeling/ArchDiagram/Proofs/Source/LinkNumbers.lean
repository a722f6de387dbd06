import Mathlib.Data.List.Nodup
import ArchDiagram.Proofs.Decimal.Digits
import ArchDiagram.Proofs.Source.Merge

namespace ArchDiagram.Source

theorem linkId_injective : Function.Injective fun number : Nat => "link-" ++ toString number := by
  intro m n h
  have hlists : "link-".toList ++ Decimal.digitsOf m = "link-".toList ++ Decimal.digitsOf n := by
    simpa [Decimal.digitsOf] using congrArg String.toList h
  exact Decimal.digitsOf_injective (List.append_cancel_left hlists)

theorem map_id_renumbered (count : Nat) (links : List Link) :
    (renumbered count links).map (·.id) =
      (List.range' (count + 1) links.length).map fun number => "link-" ++ toString number := by
  rw [renumbered, List.map_map, ← List.zipIdx_map_snd, List.map_map]
  rfl

theorem mem_id_renumbered {count : Nat} {links : List Link} {id : String} :
    id ∈ (renumbered count links).map (·.id) ↔
      ∃ number, count < number ∧ number ≤ count + links.length ∧
      id = "link-" ++ toString number := by
  simp only [map_id_renumbered, List.mem_map, List.mem_range'_1]
  constructor
  · intro h
    obtain ⟨number, ⟨hl, hu⟩, rfl⟩ := h
    exact ⟨number, by omega, by omega, rfl⟩
  · intro h
    obtain ⟨number, hl, hu, rfl⟩ := h
    exact ⟨number, ⟨by omega, by omega⟩, rfl⟩

theorem map_id_links_merged {α : Type} (d compiled : Diagram α) :
    (merged d compiled).links.map (·.id) =
      d.links.map (·.id) ++ (renumbered d.links.length compiled.links).map (·.id) := List.map_append

theorem length_links_merged {α : Type} (d compiled : Diagram α) :
    (merged d compiled).links.length = d.links.length + compiled.links.length := by
  simp [merged, length_renumbered]

theorem nodup_id_renumbered (count : Nat) (links : List Link) :
    ((renumbered count links).map (·.id)).Nodup := by
  rw [map_id_renumbered]
  exact List.Nodup.map linkId_injective List.nodup_range'

/-- Only the numbers of links change. -/
theorem renumbered_numbered (count : Nat) (decls : List LinkDecl) :
    renumbered count ((Text.numbered decls).map fun item => item.2.link item.1) =
      (decls.zipIdx (count + 1)).map fun item => item.1.link item.2 := by
  apply List.ext_getElem
  · simp [renumbered, Text.numbered]
  · intro i _ _
    simp [renumbered, Text.numbered, LinkDecl.link]

theorem numbered_append (decls added : List LinkDecl) :
    (Text.numbered (decls ++ added)).map (fun item => item.2.link item.1) =
      (Text.numbered decls).map (fun item => item.2.link item.1) ++
        renumbered decls.length ((Text.numbered added).map fun item => item.2.link item.1) := by
  rw [renumbered_numbered, Text.numbered, List.zipIdx_append, List.map_append, List.map_append,
    Nat.add_comm 1 decls.length]
  simp [Text.numbered]

variable {α : Type} [Scalar α] {title source : String} {d after : Diagram α}

/-- After a merge the ids of links are told apart exactly if they were before and none of the old
ones is one of the numbers that the new links get. -/
theorem nodup_linkIds_iff (h : mergeInto title source d = .ok () after) :
    (after.links.map (·.id)).Nodup ↔ (d.links.map (·.id)).Nodup ∧
      ∀ link ∈ d.links, ∀ number, d.links.length < number → number ≤ after.links.length →
        link.id ≠ "link-" ++ toString number := by
  obtain ⟨compiled, -, -, rfl⟩ := mergeInto_eq_ok_iff.mp h
  rw [map_id_links_merged, List.nodup_append', length_links_merged]
  constructor
  · intro hn
    obtain ⟨hold, -, hapart⟩ := hn
    refine ⟨hold, fun link hm number hl hu he => ?_⟩
    exact hapart (List.mem_map_of_mem hm) (mem_id_renumbered.mpr ⟨number, hl, hu, he⟩)
  · intro hn
    obtain ⟨hold, hfree⟩ := hn
    refine ⟨hold, nodup_id_renumbered _ _, fun id hm hnew => ?_⟩
    obtain ⟨link, hlink, rfl⟩ := List.mem_map.mp hm
    obtain ⟨number, hl, hu, he⟩ := mem_id_renumbered.mp hnew
    exact hfree link hlink number hl hu he

/-- A diagram whose one link was given an id. -/
def handmade (id : String) : Diagram Float :=
  { nodes := [Node.fresh "a" "a" .service], links := [{ id, source := "a", target := "a" }] }

def loopSource : String := "node b: \"\" icon=server x=0 y=0\nb -> b"

theorem nodup_linkIds_handmade : ∃ after : Diagram Float,
    mergeInto defaultTitle loopSource (handmade "a-a") = .ok () after ∧
    ((after.links.map (·.id)).Nodup ↔ ((handmade "a-a").links.map (·.id)).Nodup ∧
      ∀ link ∈ (handmade "a-a").links, ∀ number, (handmade "a-a").links.length < number →
        number ≤ after.links.length → link.id ≠ "link-" ++ toString number) := by
  have hok : (match mergeInto defaultTitle loopSource (handmade "a-a") with
    | .ok _ _ => true
    | .error _ _ => false) = true := by decide +kernel
  cases h : mergeInto defaultTitle loopSource (handmade "a-a") with
  | ok _ after => exact ⟨after, rfl, nodup_linkIds_iff h⟩
  | error error after =>
    rw [h] at hok
    contradiction

/-- The link of the source gets the number two, which is taken already. -/
theorem linkIds_clash : ((handmade "link-2").links.map (·.id)).Nodup ∧
    ∃ after : Diagram Float, mergeInto defaultTitle loopSource (handmade "link-2") = .ok () after ∧
      after.links.map (·.id) = ["link-2", "link-2"] ∧ ¬(after.links.map (·.id)).Nodup := by
  have hok : (match mergeInto defaultTitle loopSource (handmade "link-2") with
    | .ok _ after => decide (after.links.map (·.id) = ["link-2", "link-2"])
    | .error _ _ => false) = true := by decide +kernel
  refine ⟨by decide, ?_⟩
  cases h : mergeInto defaultTitle loopSource (handmade "link-2") with
  | ok _ after =>
    rw [h] at hok
    have hids : after.links.map (·.id) = ["link-2", "link-2"] := of_decide_eq_true hok
    exact ⟨after, rfl, hids, by rw [hids]; decide⟩
  | error error after =>
    rw [h] at hok
    contradiction

/-- The links have their numbers in order. -/
def LinksNumbered {α : Type} (d : Diagram α) : Prop :=
  d.links.map (·.id) = (List.range' 1 d.links.length).map fun number => "link-" ++ toString number

namespace LinksNumbered

omit [Scalar α]

theorem nodup (h : LinksNumbered d) : (d.links.map (·.id)).Nodup := by
  rw [h]
  exact List.Nodup.map linkId_injective List.nodup_range'

/-- The numbers of a merge go on where those of the diagram end. -/
theorem merged (h : LinksNumbered d) (compiled : Diagram α) :
    LinksNumbered (merged d compiled) := by
  rw [LinksNumbered, map_id_links_merged, length_links_merged, h, map_id_renumbered,
    ← List.map_append, Nat.add_comm _ 1, List.range'_append_1]

end LinksNumbered

end ArchDiagram.Source
