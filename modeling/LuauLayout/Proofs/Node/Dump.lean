/-
  LuauLayout.Proofs.Node.Dump

  What a report says about an unmodelled node is the node.

  The detail of a report on such a node is the JSON text of the value it was read
  from. Where the numbers of the dump are integers, that text is read back to
  the same value, and the value is read back to the same node, so a report can
  be fed to the reader again.
-/

import LuauLayout.Failure
import LuauLayout.Proofs.Json.RoundTrip
import LuauLayout.Proofs.Node.Decoding

namespace LuauLayout
namespace Node

/-- An unmodelled node keeps the value it is read from. -/
theorem eq_of_ofJson_eq_unmodelled {v data : Json} {tag : ForeignTag} {l : Location}
    (h : ofJson v = .ok (.unmodelled tag l data)) : data = v := by
  cases v with
  | object members =>
    obtain huntagged | ⟨form, htag⟩ | ⟨tag', htag, hforeign⟩ := tag_cases members
    · rw [ofJson_of_untagged huntagged] at h
      cases h
    · obtain ⟨hform, -⟩ := (ofJson_eq_ok_iff htag).mp h
      cases hform
    · rw [ofJson_of_foreign htag hforeign] at h
      cases h
      rfl
  | null => cases h
  | bool b => cases h
  | number n => cases h
  | text s => cases h
  | list items => cases h

/-- An unmodelled node from anywhere in a text whose numerals are integers of 64 bits is
    described, also in a report, by a text that is read back to this node. -/
theorem describe_reads_back {text : String} {root v data : Json} {tag : ForeignTag} {l : Location}
    (hread : Json.parse? text = some root) (hplain : Json.HasPlainNumerals text)
    (hpart : v.IsPartOf root) (hnode : ofJson v = .ok (.unmodelled tag l data)) :
    let n : Node := .unmodelled tag l data
    (Unsupported.ofNode n).detail = n.describe ∧
      Json.parse? n.describe = some data ∧ ofJson data = .ok n := by
  intro n
  obtain rfl : data = v := eq_of_ofJson_eq_unmodelled hnode
  have hdelivered : Json.IsDelivered JsonNumber.IsInteger64 Json.maxDepth data :=
    (hplain.isDelivered hread).part hpart
  exact ⟨rfl, Json.parse?_compress hdelivered, hnode⟩

/-- A node among the members of a dump, with a key that needs escapes and with the greatest and the
    least integer. -/
theorem describe_reads_back_escapes :
    let text := "\x7b\"root\": [\x7b\"\\u0001\\n\": [18446744073709551615, -9223372036854775808], " ++
      "\"type\": \"AstTypeAlias\"\x7d]\x7d"
    let entry : Json := .object [("\x01\n", .list [.number (.integer 18446744073709551615),
      .number (.integer (-9223372036854775808))]), ("type", .text "AstTypeAlias")]
    let dump : Json := .object [("root", .list [entry])]
    Json.parse? text = some dump ∧ Json.HasPlainNumerals text ∧ entry.IsPartOf dump ∧
    ∃ tag, let n : Node := .unmodelled tag ⟨""⟩ entry
      n.describe =
        "\x7b\"\\u0001\\n\":[18446744073709551615,-9223372036854775808]," ++
          "\"type\":\"AstTypeAlias\"\x7d" ∧
      Json.parse? n.describe = some entry ∧ ofJson entry = .ok n := by
  intro text entry dump
  have htokens : Json.tokens? text.toList = some dump.tokens := by decide +kernel
  have hread : Json.parse? text = some dump := by
    rw [Json.parse?, htokens]
    rfl
  have hnumerals : Json.numerals text = ["18446744073709551615".toList,
      "-9223372036854775808".toList] := by decide +kernel
  have hplain : Json.HasPlainNumerals text := by
    intro cs hcs
    rw [hnumerals] at hcs
    obtain rfl | hcs := List.mem_cons.mp hcs
    · exact ⟨_, rfl, ⟨rfl, rfl, by decide⟩⟩
    · obtain rfl := List.mem_singleton.mp hcs
      exact ⟨_, rfl, ⟨rfl, rfl, by decide⟩⟩
  have hpart : entry.IsPartOf dump :=
    .member List.mem_cons_self (.item List.mem_cons_self .refl)
  have htag : Form.ofTag? "AstTypeAlias" = none := by decide +kernel
  have hnode : ofJson entry = .ok (.unmodelled ⟨"AstTypeAlias", htag⟩ ⟨""⟩ entry) := rfl
  obtain ⟨-, hback⟩ := describe_reads_back hread hplain hpart hnode
  exact ⟨hread, hplain, hpart, _, by cbv, hback⟩

end Node
end LuauLayout
