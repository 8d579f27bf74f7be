import Mathlib.Data.List.TakeWhile
import MeshSidecar.Proofs.Names.Ascending
import MeshSidecar.Proofs.Service.WellFormed
import MeshSidecar.Service.Display

/-!
# Reading a written form back

A service is `Spellable` if its written form can be taken apart again: the name is not empty and
holds no separator, the namespace holds no colon, and the tags are not empty and hold no comma.
The namespace may hold points and the tags colons and points, since only the first point and the
first colon count.

What is read back is the service as far as it is `written`: without its ports, and without a
namespace that is empty (`Service.parse_display`). Whatever is read is spellable
(`Service.spellable_of_parse`), so that reading and writing have come to an end after one round.
-/

namespace MeshSidecar

namespace Service

/-- A service whose written form can be taken apart again. -/
structure Spellable (service : Service) : Prop where
  name_nonempty : service.name ≠ ""
  name_plain : '.' ∉ service.name.toList ∧ ':' ∉ service.name.toList
  space_plain : ∀ ns, service.ns = some ns → ':' ∉ ns.toList
  tags_plain : ∀ tag ∈ service.tags.toList, tag ≠ "" ∧ ',' ∉ tag.toList

/-- What the written form says of a service. -/
def written (service : Service) : Service :=
  { service with ns := service.ns.filter (· ≠ ""), ports := [] }

/-- Writes what was read, and reads it again. -/
def reparse (read : Except ParseServiceError Service) : Except ParseServiceError Service :=
  read.bind fun service => parse service.display

-- ── Separators ──────────────────────────────────────────────────────────────

/-- A text is split at the first mark, which is found if there is one. -/
theorem splitAtFirst_eq (mark : Char) (text : List Char) :
    splitAtFirst mark text =
      (text.takeWhile (· ≠ mark),
        if mark ∈ text then some (text.dropWhile (· ≠ mark)).tail else none) := by
  induction text with
  | nil => rfl
  | cons c rest ih =>
      rw [splitAtFirst]
      by_cases hc : c = mark
      · rw [if_pos hc, hc]
        simp
      · rw [if_neg hc, ih]
        simp [hc, Ne.symm hc]

/-- A text without the mark stands before it as a whole. -/
theorem splitAtFirst_of_not_mem {mark : Char} {text : List Char} (h : mark ∉ text) :
    splitAtFirst mark text = (text, none) := by
  have hwhole : text.takeWhile (· ≠ mark) = text := by
    refine List.takeWhile_eq_self_iff.mpr fun c hc => ?_
    exact decide_eq_true fun heq => h (heq ▸ hc)
  rw [splitAtFirst_eq, if_neg h, hwhole]

/-- What is joined by a mark that the left side does not hold is split there. -/
theorem splitAtFirst_append {mark : Char} {left : List Char} (h : mark ∉ left)
    (right : List Char) : splitAtFirst mark (left ++ mark :: right) = (left, some right) := by
  have hleft : ∀ c ∈ left, decide (c ≠ mark) = true := by
    intro c hc
    exact decide_eq_true fun heq => h (heq ▸ hc)
  rw [splitAtFirst_eq, if_pos (by simp), List.takeWhile_append_of_pos hleft,
    List.dropWhile_append_of_pos hleft]
  simp

/-- The pieces between commas are what the text is split into. -/
theorem commaPieces_eq (text : List Char) : commaPieces text = text.splitOn ',' := by
  induction text with
  | nil => rfl
  | cons c rest ih =>
      rw [List.splitOn_cons_eq_if_modifyHead, commaPieces, ih]
      by_cases hc : c = ','
      · rw [if_pos hc, if_pos (beq_iff_eq.mpr hc)]
      · rw [if_neg hc, if_neg fun heq => hc (beq_iff_eq.mp heq)]
        cases hrest : rest.splitOn ',' with
        | nil => exact absurd hrest (List.splitOn_ne_nil _ _)
        | cons piece pieces => rfl

/-- No piece holds a comma. -/
theorem comma_not_mem_commaPieces {text piece : List Char} (h : piece ∈ commaPieces text) :
    ',' ∉ piece := by
  induction text generalizing piece with
  | nil => simp [commaPieces] at h; simp [h]
  | cons c rest ih =>
      rw [commaPieces] at h
      by_cases hc : c = ','
      · rw [if_pos hc] at h
        rcases List.mem_cons.mp h with rfl | hmem
        · exact List.not_mem_nil
        · exact ih hmem
      · rw [if_neg hc] at h
        cases hrest : commaPieces rest with
        | nil =>
            rw [hrest] at h
            obtain rfl := List.mem_singleton.mp h
            simpa using Ne.symm hc
        | cons first pieces =>
            rw [hrest] at h ih
            rcases List.mem_cons.mp h with rfl | hmem
            · have hfirst := ih (List.mem_cons_self ..)
              simp [hfirst, Ne.symm hc]
            · exact ih (List.mem_cons_of_mem _ hmem)

-- ── What is read ────────────────────────────────────────────────────────────

/-- A text is read by its name, its host and its tags. -/
theorem parse_eq (form : String) :
    parse form =
      if form.toList.takeWhile (fun c => c ≠ '.' ∧ c ≠ ':') = [] then .error .emptyName
      else if ':' ∈ form.toList ∧
          [] ∈ (form.toList.dropWhile (· ≠ ':')).tail.splitOn ',' then .error .emptyTag
      else .ok {
        name := String.ofList (form.toList.takeWhile fun c => c ≠ '.' ∧ c ≠ ':')
        ns := (splitAtFirst '.' (form.toList.takeWhile (· ≠ ':'))).2.map String.ofList
        tags := NameSet.ofList ((((splitAtFirst ':' form.toList).2.map commaPieces).getD []).map
          String.ofList)
        ports := [] } := by
  have hname : (splitAtFirst '.' (form.toList.takeWhile (· ≠ ':'))).1 =
      form.toList.takeWhile fun c => c ≠ '.' ∧ c ≠ ':' := by
    rw [splitAtFirst_eq, List.takeWhile_takeWhile]
    simp only [decide_eq_true_eq]
  have htags : ((((splitAtFirst ':' form.toList).2.map commaPieces).getD []).any (·.isEmpty)
        = true) ↔
      ':' ∈ form.toList ∧ [] ∈ (form.toList.dropWhile (· ≠ ':')).tail.splitOn ',' := by
    rw [splitAtFirst_eq]
    by_cases hcolon : ':' ∈ form.toList
    · simp [hcolon, commaPieces_eq]
    · simp [hcolon]
  have hhost : (splitAtFirst ':' form.toList).1 = form.toList.takeWhile (· ≠ ':') := by
    rw [splitAtFirst_eq]
  unfold parse
  simp only [hhost, hname, htags, List.isEmpty_iff]

/-- Whatever is read can be written and read again, and declares no port. -/
theorem spellable_of_parse {form : String} {service : Service} (h : parse form = .ok service) :
    service.Spellable ∧ service.ports = [] := by
  rw [parse_eq] at h
  by_cases hname : form.toList.takeWhile (fun c => c ≠ '.' ∧ c ≠ ':') = []
  · rw [if_pos hname] at h
    cases h
  rw [if_neg hname] at h
  by_cases htag : ':' ∈ form.toList ∧ [] ∈ (form.toList.dropWhile (· ≠ ':')).tail.splitOn ','
  · rw [if_pos htag] at h
    cases h
  rw [if_neg htag] at h
  obtain rfl := Except.ok.inj h
  refine ⟨⟨?_, ?_, ?_, ?_⟩, rfl⟩
  · exact fun heq => hname (String.ofList_eq_empty_iff.mp heq)
  · have hplain : ∀ c ∈ form.toList.takeWhile (fun c => c ≠ '.' ∧ c ≠ ':'), c ≠ '.' ∧ c ≠ ':' :=
      fun c hc => by simpa using List.mem_takeWhile_imp hc
    rw [String.toList_ofList]
    exact ⟨fun hc => (hplain _ hc).1 rfl, fun hc => (hplain _ hc).2 rfl⟩
  · intro ns hns
    obtain ⟨text, htext, rfl⟩ := Option.map_eq_some_iff.mp hns
    rw [splitAtFirst_eq] at htext
    rw [String.toList_ofList]
    intro hcolon
    -- the namespace is a part of the host, which ends before the first colon
    have hpart : text = ((form.toList.takeWhile (· ≠ ':')).dropWhile (· ≠ '.')).tail := by
      by_cases hpoint : '.' ∈ form.toList.takeWhile (· ≠ ':')
      · rw [if_pos hpoint] at htext
        exact (Option.some.inj htext).symm
      · rw [if_neg hpoint] at htext
        cases htext
    have hmem : ':' ∈ form.toList.takeWhile (· ≠ ':') :=
      (List.dropWhile_sublist _).mem (List.mem_of_mem_tail (hpart ▸ hcolon))
    simpa using List.mem_takeWhile_imp hmem
  · intro tag hmem
    rw [NameSet.ofList, NameSet.mem_toList_insertAll] at hmem
    obtain ⟨piece, hpiece, rfl⟩ := List.mem_map.mp (hmem.resolve_left List.not_mem_nil)
    rw [splitAtFirst_eq] at hpiece
    by_cases hcolon : ':' ∈ form.toList
    · rw [if_pos hcolon] at hpiece
      rw [String.toList_ofList]
      refine ⟨fun hempty => htag ⟨hcolon, ?_⟩, comma_not_mem_commaPieces hpiece⟩
      rw [← commaPieces_eq, ← String.ofList_eq_empty_iff.mp hempty]
      exact hpiece
    · rw [if_neg hcolon] at hpiece
      cases hpiece

-- ── What is written ─────────────────────────────────────────────────────────

/-- The host name shows the name and the namespace, if it is not empty. -/
theorem splitAtFirst_hostname {service : Service} (h : '.' ∉ service.name.toList) :
    splitAtFirst '.' service.hostname.toList =
      (service.name.toList, (service.ns.filter (· ≠ "")).map String.toList) := by
  rw [hostname]
  cases service.ns with
  | none => exact splitAtFirst_of_not_mem h
  | some ns =>
      by_cases hns : ns = ""
      · simp only [hns, Option.filter_some]
        exact splitAtFirst_of_not_mem h
      · have htext : (service.name ++ "." ++ ns).toList
            = service.name.toList ++ '.' :: ns.toList := by
          simp [String.toList_append]
        simp only [if_neg hns, htext]
        rw [splitAtFirst_append h]
        simp [hns]

theorem Spellable.colon_not_mem_hostname {service : Service} (h : service.Spellable) :
    ':' ∉ service.hostname.toList := by
  rw [hostname]
  cases hns : service.ns with
  | none => exact h.name_plain.2
  | some ns =>
      have hspace := h.space_plain ns hns
      by_cases hempty : ns = ""
      · simp only [if_pos hempty]
        exact h.name_plain.2
      · simp only [if_neg hempty, String.toList_append, List.mem_append]
        simp [h.name_plain.2, hspace]

/-- The written form is split into the host name and the tags. -/
theorem Spellable.splitAtFirst_display {service : Service} (h : service.Spellable) :
    (splitAtFirst ':' service.display.toList).1 = service.hostname.toList ∧
      (((splitAtFirst ':' service.display.toList).2.map commaPieces).getD []) =
        service.tags.toList.map String.toList := by
  rw [display]
  cases htags : service.tags.toList with
  | nil =>
      simp only
      rw [splitAtFirst_of_not_mem h.colon_not_mem_hostname]
      exact ⟨rfl, rfl⟩
  | cons tag rest =>
      have htext : (service.hostname ++ ":" ++ String.intercalate "," (tag :: rest)).toList =
          service.hostname.toList ++
            ':' :: [','].intercalate ((tag :: rest).map String.toList) := by
        simp [String.toList_append]
      simp only [htext]
      rw [splitAtFirst_append h.colon_not_mem_hostname]
      refine ⟨rfl, ?_⟩
      show commaPieces ([','].intercalate ((tag :: rest).map String.toList)) = _
      rw [commaPieces_eq, List.splitOn_intercalate]
      · intro piece hpiece
        obtain ⟨name, hname, rfl⟩ := List.mem_map.mp hpiece
        exact (h.tags_plain name (htags ▸ hname)).2
      · exact List.cons_ne_nil _ _

/-- What was written is read. -/
theorem parse_display {service : Service} (h : service.Spellable) :
    parse service.display = .ok service.written := by
  obtain ⟨hhost, htags⟩ := h.splitAtFirst_display
  have hname : service.name.toList.isEmpty = false := by
    rw [List.isEmpty_eq_false_iff]
    exact fun hempty => h.name_nonempty (String.toList_eq_nil_iff.mp hempty)
  have hnonempty : (service.tags.toList.map String.toList).any (·.isEmpty) = false := by
    rw [List.any_eq_false]
    intro piece hpiece
    obtain ⟨tag, htag, rfl⟩ := List.mem_map.mp hpiece
    rw [List.isEmpty_iff]
    exact fun hempty => (h.tags_plain tag htag).1 (String.toList_eq_nil_iff.mp hempty)
  unfold parse
  simp only [hhost, splitAtFirst_hostname h.name_plain.1, htags, hname, hnonempty]
  simp [written, NameSet.ofList_toList, Function.comp_def]

-- ── Writing and reading again ───────────────────────────────────────────────

theorem hostname_written (service : Service) : service.written.hostname = service.hostname := by
  rw [hostname, hostname, written]
  cases service.ns with
  | none => rfl
  | some ns => by_cases hns : ns = "" <;> simp [hns, Option.filter]

/-- Nothing is lost that is written. -/
theorem display_written (service : Service) : service.written.display = service.display := by
  rw [display, display, hostname_written]
  rfl

/-- After the first time nothing changes any more. -/
theorem reparse_iterate {service : Service} (h : service.Spellable) (n : Nat) :
    reparse^[n + 1] (.ok service) = .ok service.written := by
  induction n with
  | zero => exact parse_display h
  | succ n ih =>
      rw [Function.iterate_succ_apply', ih]
      show parse service.written.display = _
      rw [display_written, parse_display h]

/-- The name and the tags of a well-formed service hold no separator. -/
theorem WellFormed.spellable {service : Service} (h : service.WellFormed) : service.Spellable := by
  have hlabel : ∀ {s : String}, Text.isLabel s = true → s ≠ "" := by
    rintro s hs rfl
    exact nomatch hs
  refine ⟨hlabel h.name, ⟨Text.not_mem_of_isLabel h.name (by decide),
    Text.not_mem_of_isLabel h.name (by decide)⟩, fun ns hns => ?_, fun tag htag => ?_⟩
  · rcases h.space ns hns with rfl | hspace
    · exact List.not_mem_nil
    · exact Text.not_mem_of_isLabel hspace (by decide)
  · exact ⟨hlabel (h.tags tag htag), Text.not_mem_of_isLabel (h.tags tag htag) (by decide)⟩

/-- A service is found under the host name of another one exactly if it has its name and its
    namespace, where an empty one is none. -/
theorem hostname_eq_iff {a b : Service} (ha : '.' ∉ a.name.toList) (hb : '.' ∉ b.name.toList) :
    a.hostname = b.hostname ↔
      a.name = b.name ∧ a.ns.filter (· ≠ "") = b.ns.filter (· ≠ "") := by
  constructor
  · intro h
    have hsplit := (splitAtFirst_hostname ha).symm.trans (h ▸ splitAtFirst_hostname hb)
    obtain ⟨hname, hns⟩ := Prod.mk.inj hsplit
    exact ⟨String.toList_inj.mp hname,
      Option.map_injective (fun _ _ => String.toList_inj.mp) hns⟩
  · rintro ⟨hname, hns⟩
    rw [← hostname_written a, ← hostname_written b, hostname, hostname, written, written]
    simp only [hname, hns]

/-- Of a service that is spellable and has no empty namespace only the ports are not written. -/
theorem written_eq {service : Service} (hns : service.ns ≠ some "") :
    service.written = { service with ports := [] } := by
  have hfilter : service.ns.filter (· ≠ "") = service.ns := by
    cases hspace : service.ns with
    | none => rfl
    | some ns =>
        have hne : ns ≠ "" := fun hempty => hns (hempty ▸ hspace)
        rw [Option.filter_some, if_pos (decide_eq_true hne)]
  rw [written, hfilter]

/-- To read is the inverse of to write, on the spellable services without ports and without an
    empty namespace and on no others. Well-formed services are such up to their ports and an empty
    namespace, so that their host names tell name and namespace. Whatever is read comes back
    without an empty namespace, however often it is written and read. What cannot be read lacks
    the text before the first point or colon, or else a text between the commas after the first
    colon. -/
theorem parse_inverts_display :
    (∀ service : Service, service.Spellable → service.ns ≠ some "" →
      parse service.display = .ok { service with ports := [] }) ∧
    (∀ service : Service, parse service.display = .ok service ↔
      service.Spellable ∧ service.ns ≠ some "" ∧ service.ports = []) ∧
    (∀ service : Service, service.validate = .ok () →
      service.Spellable ∧ parse service.display =
        .ok { service with ns := service.ns.filter (· ≠ ""), ports := [] }) ∧
    (∀ a b : Service, a.validate = .ok () → b.validate = .ok () →
      (a.hostname = b.hostname ↔
        a.name = b.name ∧ a.ns.filter (· ≠ "") = b.ns.filter (· ≠ ""))) ∧
    (∀ form service, parse form = .ok service →
      service.Spellable ∧ service.ports = [] ∧
      ∀ n, reparse^[n + 1] (.ok service) =
        .ok { service with ns := service.ns.filter (· ≠ "") }) ∧
    (∀ form, parse form = .error .emptyName ↔
      form.toList.takeWhile (fun c => c ≠ '.' ∧ c ≠ ':') = []) ∧
    (∀ form, parse form = .error .emptyTag ↔
      form.toList.takeWhile (fun c => c ≠ '.' ∧ c ≠ ':') ≠ [] ∧ ':' ∈ form.toList ∧
        [] ∈ (form.toList.dropWhile (· ≠ ':')).tail.splitOn ',') := by
  refine ⟨?_, ?_, ?_, ?_, ?_, ?_, ?_⟩
  · intro service h hns
    rw [parse_display h, written_eq hns]
  · intro service
    constructor
    · intro h
      obtain ⟨hspellable, hports⟩ := spellable_of_parse h
      refine ⟨hspellable, fun hns => ?_, hports⟩
      have hsame := congrArg Service.ns (Except.ok.inj ((parse_display hspellable).symm.trans h))
      rw [written, hns] at hsame
      exact nomatch hsame
    · rintro ⟨h, hns, hports⟩
      rw [parse_display h, written_eq hns, ← hports]
  · intro service h
    have hspellable := (validate_eq_ok_iff.mp h).spellable
    exact ⟨hspellable, parse_display hspellable⟩
  · intro a b ha hb
    exact hostname_eq_iff (validate_eq_ok_iff.mp ha).spellable.name_plain.1
      (validate_eq_ok_iff.mp hb).spellable.name_plain.1
  · intro form service h
    obtain ⟨hspellable, hports⟩ := spellable_of_parse h
    refine ⟨hspellable, hports, fun n => ?_⟩
    rw [reparse_iterate hspellable, written, ← hports]
  · intro form
    rw [parse_eq]
    by_cases hname : form.toList.takeWhile (fun c => c ≠ '.' ∧ c ≠ ':') = []
    · rw [if_pos hname]
      exact iff_of_true rfl hname
    · rw [if_neg hname]
      refine iff_of_false (fun h => ?_) hname
      split at h <;> exact nomatch h
  · intro form
    rw [parse_eq]
    by_cases hname : form.toList.takeWhile (fun c => c ≠ '.' ∧ c ≠ ':') = []
    · rw [if_pos hname]
      exact iff_of_false nofun fun h => h.1 hname
    · rw [if_neg hname, and_iff_right hname]
      by_cases htag : ':' ∈ form.toList ∧
          [] ∈ (form.toList.dropWhile (· ≠ ':')).tail.splitOn ','
      · rw [if_pos htag]
        exact iff_of_true rfl htag
      · rw [if_neg htag]
        exact iff_of_false nofun htag

/-- A service with points in its namespace and with separators in its tags. -/
def dotted : Service where
  name := "reviews"
  ns := some "prod.eu"
  tags := NameSet.ofList ["v1:beta", "a.b"]
  ports := [⟨"http", 9080, .http⟩]

/-- It is read back without its port, and its name and tags are missed where they are left out. -/
theorem dotted_read :
    dotted.display = "reviews.prod.eu:a.b,v1:beta" ∧
    parse "reviews.prod.eu:a.b,v1:beta" = .ok { dotted with ports := [] } ∧
    parse ".prod:v1" = .error .emptyName ∧
    parse "reviews.prod:v1," = .error .emptyTag := by
  have hdisplay : dotted.display = "reviews.prod.eu:a.b,v1:beta" := by decide +kernel
  have hspellable : dotted.Spellable := by
    refine ⟨by decide, by decide, fun ns hns => ?_, by decide +kernel⟩
    obtain rfl : "prod.eu" = ns := Option.some.inj hns
    decide
  obtain ⟨hread, -, -, -, -, hname, htag⟩ := parse_inverts_display
  exact ⟨hdisplay, hdisplay ▸ hread dotted hspellable (by decide),
    (hname _).mpr (by decide), (htag _).mpr (by decide +kernel)⟩

end Service

end MeshSidecar
