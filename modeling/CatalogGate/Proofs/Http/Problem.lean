-- The law of problems: what a response tells of can be read off the response.
import CatalogGate.Http.Message
import CatalogGate.Proofs.Json.Quoting

namespace CatalogGate.Http.Problem

open Json (compactMembers_string_inj compactMembers_cons_inj compact_object_inj)

/-- The members of a problem behind its status. -/
def closing (p : Problem) : List (String × Json) :=
  (p.detail.map fun detail => ("detail", Json.string detail)).toList ++ [("instance", .string p.place)]

theorem closing_inj {p q : Problem}
    (h : (Json.compactMembers p.closing).toList = (Json.compactMembers q.closing).toList) :
    p.detail = q.detail ∧ p.place = q.place := by
  unfold closing at h
  rcases hp : p.detail with _ | detail <;> rcases hq : q.detail with _ | detail' <;> rw [hp, hq] at h
  · exact ⟨rfl, (compactMembers_string_inj h).2.1⟩
  · exact absurd (compactMembers_string_inj h).1 (by decide)
  · exact absurd (compactMembers_string_inj h).1 (by decide)
  · obtain ⟨_, hdetail, hrest⟩ := compactMembers_string_inj h
    exact ⟨congrArg some hdetail, (compactMembers_string_inj hrest).2.1⟩

theorem response_inj {p q : Problem} (h : p.response = q.response) : p = q := by
  obtain ⟨hstatus, hbody⟩ : p.status = q.status ∧ p.toJson.compact = q.toJson.compact := by
    simpa [response] using h
  obtain ⟨_, htype, hrest⟩ := compactMembers_string_inj (compact_object_inj hbody)
  obtain ⟨_, htitle, hrest⟩ := compactMembers_string_inj hrest
  rw [hstatus] at hrest
  obtain ⟨hdetail, hplace⟩ := closing_inj (compactMembers_cons_inj hrest)
  obtain ⟨_, _, _, _, _⟩ := p
  obtain ⟨_, _, _, _, _⟩ := q
  simp_all

end CatalogGate.Http.Problem
