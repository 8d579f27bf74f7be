import MeshSidecar.Mesh
import MeshSidecar.Proofs.Service.Document

/-!
# What is written is read back

Services, instances and the settings of the mesh are read as they were written, from every text
of what they were written as. The text that the controller writes is one of these, so to decode it
undoes to encode it, and the text of a value tells it apart from all others of its type
(`decode_encode`).
-/

namespace MeshSidecar

open Json

variable {α : Type} {read : Reader α}

/-- If every value is read as it was written, no two values have the same text. -/
theorem Reads.compact_injective {write : α → Json} (h : ∀ value, Reads read (write value) value) :
    Function.Injective fun value => (write value).compact := by
  intro first second hsame
  have hfirst := (h first).document_compact
  have hsecond := (h second).document_compact
  have hsame : (write first).compact = (write second).compact := hsame
  rw [hsame] at hfirst
  exact Except.ok.inj (hfirst.symm.trans hsecond)

/-- The settings of the mesh are read as they were written. -/
theorem MeshSettings.reads (mesh : MeshSettings) : Reads record.read mesh.toJson mesh := by
  refine Record.Takes.reads ?_
  refine .field rfl rfl ((Reads.word16 mesh.listenPort).defaulted _ _) ?_
  refine .field rfl rfl ((Reads.word16 mesh.adminPort).defaulted _ _) ?_
  refine .field rfl rfl ((Reads.text mesh.discoveryAddress).defaulted _ _) ?_
  refine .field rfl rfl ((Reads.word64 mesh.connectTimeoutMs).defaulted _ _) ?_
  refine .field rfl rfl ((Reads.word64 mesh.drainSecs).defaulted _ _) ?_
  refine .field rfl rfl ((Reads.word64 mesh.parentShutdownSecs).defaulted _ _) ?_
  exact .field rfl rfl ((Reads.text mesh.serviceCluster).defaulted _ _) (.done rfl)

/-- To decode undoes to encode. Every service, every instance and all settings of the mesh are read
    from the text that is written of them, whatever their strings hold and whatever is absent or
    empty. So two of them that differ differ in their texts. -/
theorem decode_encode :
    (∀ service : Service,
      Service.record.read.document (Text.bytes service.toJson.compact) = .ok service) ∧
    (∀ inst : Instance,
      Instance.record.read.document (Text.bytes inst.toJson.compact) = .ok inst) ∧
    (∀ mesh : MeshSettings, MeshSettings.ofBytes (Text.bytes mesh.toJson.compact) = .ok mesh) ∧
    (Function.Injective fun service : Service => service.toJson.compact) ∧
    (Function.Injective fun inst : Instance => inst.toJson.compact) ∧
    (Function.Injective fun mesh : MeshSettings => mesh.toJson.compact) := by
  refine ⟨?_, ?_, ?_, ?_, ?_, ?_⟩
  · exact fun service => (Service.reads service).document_compact
  · exact fun inst => (Instance.reads inst).document_compact
  · exact fun mesh => (MeshSettings.reads mesh).document_compact
  · exact Reads.compact_injective Service.reads
  · exact Reads.compact_injective Instance.reads
  · exact Reads.compact_injective MeshSettings.reads

/-- A service with a quote, a backslash, a control character and a character beyond ASCII in its
    strings, and with a namespace that is there but empty. -/
def awkward : Service where
  name := "\"\\\x01é"
  ns := some ""
  tags := .ofList ["", "\n", "v1"]
  ports := [⟨"", 65535, .udp⟩, ⟨"", 0, .http2⟩]

/-- It is read back, and its text is not the one that it would have without a namespace. -/
theorem awkward_decode_encode :
    Service.record.read.document (Text.bytes awkward.toJson.compact) = .ok awkward ∧
      awkward.toJson.compact ≠ { awkward with ns := none }.toJson.compact := by
  obtain ⟨hservice, -, -, hinjective, -, -⟩ := decode_encode
  refine ⟨hservice awkward, fun hsame => ?_⟩
  exact nomatch congrArg Service.ns (hinjective hsame)

end MeshSidecar
