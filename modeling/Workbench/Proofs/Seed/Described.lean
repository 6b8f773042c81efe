import Workbench.Proofs.Json.Document
import Workbench.Proofs.Success
import Workbench.Seed.Server

set_option autoImplicit false

namespace Workbench

open Http (Request Response)
open Json (Value)

namespace Descriptor

theorem seed?_toJson (seed : Seed) : seed? seed.toJson = some seed := by
  simp [Seed.toJson, Seed.fields, seed?, field?]

theorem textual_toJson (seed : Seed) : seed.toJson.Textual := by
  refine .object _ ?_
  intro member inside
  obtain ⟨field, _, rfl⟩ := List.mem_map.mp inside
  exact .string _

theorem mapM_seed?_toJson (seeds : List Seed) :
    (seeds.map Seed.toJson).mapM seed? = some seeds := by
  rw [mapM_eq_some_iff, List.forall₂_map_left_iff, List.forall₂_same]
  exact fun seed _ => seed?_toJson seed

theorem parse?_render (seeds : List Seed) : parse? (render seeds) = some seeds := by
  have textual : (Value.array (seeds.map Seed.toJson)).Textual := by
    refine .array _ ?_
    intro item inside
    obtain ⟨seed, _, rfl⟩ := List.mem_map.mp inside
    exact textual_toJson seed
  rw [parse?, render, String.toList_ofList, Json.parse?_render textual]
  exact mapM_seed?_toJson seeds

theorem render_inj {seeds others : List Seed} : render seeds = render others ↔ seeds = others := by
  constructor
  · intro same
    have read := parse?_render seeds
    rw [same, parse?_render] at read
    exact (Option.some.inj read).symm
  · exact congrArg render

end Descriptor

namespace SeedServer

variable {settings : SeedSettings}

theorem body_of_start {network : Network} {server : SeedServer}
    (started : start network settings = .ok server) :
    server.body = Descriptor.render settings.nodes := by
  obtain ⟨endpoint, _, same⟩ := bind_eq_ok_iff.mp started
  obtain rfl := Except.ok.inj same
  rfl

structure Asks (request : Request) : Prop where
  method : request.method = "GET"
  path : request.uri.pathText = Descriptor.path.toList

theorem respond_of_asks {request : Request} (asks : Asks request) (body : String) :
    respond body request = (Response.plain 200 body).sealed "GET" := by
  rw [respond, if_pos asks.path, describe, asks.method]
  rfl

inductive Describes (settings : SeedSettings) : Response → Prop
  | answer {network : Network} {server : SeedServer} {request : Request}
      (started : start network settings = .ok server) (asks : Asks request) :
      Describes settings (respond server.body request)

theorem Describes.eq {answer : Response} (describes : Describes settings answer) :
    answer = (Response.plain 200 (Descriptor.render settings.nodes)).sealed "GET" := by
  obtain ⟨started, asks⟩ := describes
  rw [respond_of_asks asks, body_of_start started]

theorem Describes.body {answer : Response} (describes : Describes settings answer) :
    answer.body = (Descriptor.render settings.nodes).toUTF8 := by
  rw [describes.eq]
  rfl

/-- The descriptor that a provider serves is read as its records, one for one and in their order.
Two providers serve the same body exactly if they have the same records. -/
theorem served_descriptor_tells_nodes {answer : Response}
    (describes : Describes settings answer) :
    answer.status = 200 ∧
      (∃ text, String.fromUTF8? answer.body = some text ∧
        Descriptor.parse? text = some settings.nodes) ∧
      ∀ other otherAnswer, Describes other otherAnswer →
        (otherAnswer.body = answer.body ↔ other.nodes = settings.nodes) := by
  refine ⟨?_, ⟨Descriptor.render settings.nodes, ?_, Descriptor.parse?_render _⟩, ?_⟩
  · rw [describes.eq]
    rfl
  · rw [describes.body]
    exact dif_pos (String.isValidUTF8 _)
  · intro other otherAnswer otherwise
    rw [describes.body, otherwise.body, ← Descriptor.render_inj]
    exact String.toByteArray_inj

def oddSeed : Seed where
  token := "\""
  hostname := "a\\b\x01\n/"
  dc := "\x7f\u00e9\u2028"
  ip := "😀"
  zone := ""
  location := "],[\t"

def askingForNodes : Request where
  uri := { path := Descriptor.path.toList, query := some "dc=other".toList }

def onThisHost : Network := fun _ port => .ok ⟨.inl ⟨127, 0, 0, 1⟩, port⟩

theorem describes_askingForNodes (nodes : List Seed) :
    Describes { nodes } (respond (Descriptor.render nodes) askingForNodes) :=
  @Describes.answer { nodes } onThisHost ⟨Descriptor.render nodes, _⟩ _ rfl ⟨rfl, rfl⟩

theorem odd_nodes_are_told :
    let served (nodes : List Seed) := respond (Descriptor.render nodes) askingForNodes
    let answer := served [oddSeed, Seed.localNode]
    Describes { nodes := [oddSeed, Seed.localNode] } answer ∧ answer.status = 200 ∧
      (∃ text, String.fromUTF8? answer.body = some text ∧
        Descriptor.parse? text = some [oddSeed, Seed.localNode]) ∧
      (served [Seed.localNode, oddSeed]).body ≠ answer.body := by
  intro served answer
  have describes := describes_askingForNodes [oddSeed, Seed.localNode]
  obtain ⟨status, told, others⟩ := served_descriptor_tells_nodes describes
  refine ⟨describes, status, told, ?_⟩
  have reversed := others _ _ (describes_askingForNodes [Seed.localNode, oddSeed])
  exact fun same => absurd (reversed.mp same) (by decide)

end SeedServer

end Workbench
