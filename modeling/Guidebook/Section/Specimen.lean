import Guidebook.Section.Title

namespace Guidebook
namespace Specimen

/-!
# A specimen guidebook

The prerequisites of a cluster: one section offers a single option, the other
offers two.  It is small, and still has every kind of section.
-/

/-- The specimen forest, with one root and five commands. -/
def prerequisites : Forest :=
  [⟨"Prerequisites",
    [⟨"EEE", [.ofOption ⟨1, "TabE1"⟩ [.command "echo EEE"]]⟩,
      ⟨"DDD",
        [.ofOption ⟨1, "SubTab1"⟩
            [.command "echo AAA", .command "echo AAA", .command "echo AAA"],
          .ofOption ⟨2, "SubTab2"⟩ [.command "echo BBB"]]⟩]⟩]

end Specimen
end Guidebook
