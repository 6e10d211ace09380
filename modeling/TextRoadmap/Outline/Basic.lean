/-
TextRoadmap/Outline/Basic.lean

Writing a roadmap as an outline and reading it again.
-/
import TextRoadmap.Outline.Read
import TextRoadmap.Outline.Write

namespace TextRoadmap

/-- The heading of a roadmap. -/
def Roadmap.heading (r : Roadmap) : Heading := ⟨r.id, r.prevId, r.title, r.layout, r.baseUrl⟩

/-- The roadmap that its own outline shows under its own heading, with a
history that begins when the roadmap was made. -/
def Roadmap.reread (r : Roadmap) : Roadmap := Roadmap.ofOutline r.heading r.createdAt r.outline

end TextRoadmap
