/-
# Proofs.Strategy.Advice — the flags that the fallback tells a person to pass

The fallback changes nothing and warns once for each request. Its warning ends with
the flags that would do what the request asks for, and no name in it holds a space, so
the flags are the words after `with` (`toldFlags_advice`). A flag without its option
name is a value that can be parsed: for requests that came from such values the flags
ask for the same again.

* `read_toldFlags`: the one flag of a request that came from a flag asks for it again;
* `advice_reads_back`: so a whole list of requests is read back from its warnings.
-/
import Mathlib.Data.List.Forall2
import ModuleOpens.Host.Machine
import ModuleOpens.Proofs.Request.Flag
import ModuleOpens.Proofs.Text.Words
import ModuleOpens.Strategy.Pass

namespace ModuleOpens

set_option autoImplicit false

namespace Pass

/-- The flags of a warning: its words after `with`. -/
def toldFlags (event : Event) : List String :=
  ((Text.words event.text).dropWhile (· ≠ "with")).tail

/-- The option that a flag is given with. -/
def flagPrefix : String := "--add-opens="

/-- What a flag asks for, once the option name is taken off; nothing, if it is another option. -/
def readFlag? (flag : String) : Option (Except RequestError (List OpenRequest)) :=
  (flagPrefix.toList.isPrefixOf? flag.toList).map fun value => Flag.parse (String.ofList value)

variable {request : OpenRequest}

/-! ## The words of a warning -/

/-- The module with its packages, as a warning shows it. -/
def shownPackages (request : OpenRequest) : String :=
  request.opened ++ "/\x7b" ++ ",".intercalate request.packages ++ "\x7d"

/-- The words of a warning up to `with`. -/
def wordsBefore (request : OpenRequest) : List String :=
  ["Could", "not", "automatically", "add-opens", "for", "module", shownPackages request, "to",
    "module", request.opening ++ ";", "start", "the", "process"]

/-- The flags that would do what a request asks for. -/
def flagsOf (request : OpenRequest) : List String :=
  (Flag.values request).map fun value => flagPrefix ++ value

theorem text_advice (request : OpenRequest) :
    (advice request).text = " ".intercalate (wordsBefore request ++ "with" :: flagsOf request) := by
  have nonempty : flagsOf request ≠ [] := by
    simp [flagsOf, Flag.values, request.packages_ne_nil]
  have byHand : Flag.byHand request = " ".intercalate (flagsOf request) := rfl
  obtain ⟨first, rest, flags⟩ := List.exists_cons_of_ne_nil nonempty
  rw [← String.toList_inj, advice, Event.warn, byHand, flags]
  simp [wordsBefore, shownPackages]

theorem space_not_mem_shownPackages (request : OpenRequest) :
    ' ' ∉ (shownPackages request).toList := by
  have opened := space_not_mem_of_isName request.opened_name
  have packages : ' ' ∉ [','].intercalate (request.packages.map String.toList) := by
    intro member
    rcases Text.mem_intercalate member with joint | ⟨part, isPart, inPart⟩
    · simp at joint
    · obtain ⟨package, isPackage, rfl⟩ := List.mem_map.1 isPart
      exact space_not_mem_of_isName (request.packages_name package isPackage) inPart
  simp [shownPackages, opened, packages]

theorem space_not_mem_flagsOf : ∀ flag ∈ flagsOf request, ' ' ∉ flag.toList := by
  intro flag isFlag
  obtain ⟨value, isValue, rfl⟩ := List.mem_map.1 isFlag
  obtain ⟨package, isPackage, rfl⟩ := List.mem_map.1 isValue
  have opened := space_not_mem_of_isName request.opened_name
  have opening := space_not_mem_of_isName request.opening_name
  have inPackage := space_not_mem_of_isName (request.packages_name package isPackage)
  simp [flagPrefix, opened, opening, inPackage]

/-- No name lets a space into a warning, so its words are those that it was made of. -/
theorem words_advice (request : OpenRequest) :
    Text.words (advice request).text = wordsBefore request ++ "with" :: flagsOf request := by
  have opening := space_not_mem_of_isName request.opening_name
  rw [text_advice]
  apply Text.words_intercalate (by simp [wordsBefore])
  intro word isWord
  rw [List.mem_append, List.mem_cons] at isWord
  rcases isWord with before | rfl | isFlag
  · simp only [wordsBefore, List.mem_cons, List.not_mem_nil, or_false] at before
    rcases before with rfl | rfl | rfl | rfl | rfl | rfl | rfl | rfl | rfl | rfl | rfl | rfl | rfl
    case inr.inr.inr.inr.inr.inr.inl => exact space_not_mem_shownPackages request
    case inr.inr.inr.inr.inr.inr.inr.inr.inr.inl => simp [opening]
    all_goals decide
  · decide
  · exact space_not_mem_flagsOf word isFlag

/-- No word before `with` is the same word: the two that hold names end in a sign. -/
theorem with_not_mem_wordsBefore (request : OpenRequest) : "with" ∉ wordsBefore request := by
  have brace : '\x7d' ∉ "with".toList := by decide
  have semicolon : ';' ∉ "with".toList := by decide
  have shown : "with" ≠ shownPackages request := by
    intro same
    rw [same] at brace
    simp [shownPackages] at brace
  have opening : "with" ≠ request.opening ++ ";" := by
    intro same
    rw [same] at semicolon
    simp at semicolon
  simp [wordsBefore, shown, opening]

/-- The flags of a warning are those of its request. -/
theorem toldFlags_advice (request : OpenRequest) : toldFlags (advice request) = flagsOf request := by
  have before : ∀ word ∈ wordsBefore request, decide (word ≠ "with") = true := by
    intro word isWord
    simp only [decide_eq_true_eq]
    rintro rfl
    exact with_not_mem_wordsBefore request isWord
  rw [toldFlags, words_advice, List.dropWhile_append_of_pos before]
  rfl

/-! ## Reading the flags -/

theorem readFlag?_flagPrefix (value : String) :
    readFlag? (flagPrefix ++ value) = some (Flag.parse value) := by
  have off : flagPrefix.toList.isPrefixOf? (flagPrefix.toList ++ value.toList) =
      some value.toList := rfl
  rw [readFlag?, String.toList_append, off, Option.map_some, String.ofList_toList]

/-- The one flag of a request that came from a flag asks for it again. -/
theorem read_toldFlags (plain : Flag.Plain request) :
    (toldFlags (advice request)).map readFlag? = [some (.ok [request])] := by
  have read : (Flag.values request).map (fun value => readFlag? (flagPrefix ++ value)) =
      ((Flag.values request).map Flag.parse).map some := by
    rw [List.map_map]
    exact List.map_congr_left fun value _ => readFlag?_flagPrefix value
  rw [toldFlags_advice, flagsOf, List.map_map]
  show (Flag.values request).map (fun value => readFlag? (flagPrefix ++ value)) = _
  rw [read, Flag.parse_values plain]
  rfl

end Pass

namespace StrategyKind

variable {σ : Type} [Host σ]

/-- The fallback fails on no requests, changes neither host nor context, and warns once for each
request, in order. When the requests came from flag values, the flags that it tells to pass ask
for the same requests again: each warning for its own, all warnings for the whole list. -/
theorem advice_reads_back {requests : List OpenRequest}
    (parsed : ∀ request ∈ requests, ∃ value together,
      Flag.parse value = .ok together ∧ request ∈ together)
    (context : LoaderContext) (host : σ) :
    let pass := fallback.openModules requests context host
    pass.error = none ∧ pass.host = host ∧ pass.context = context ∧
      List.Forall₂ (fun event request => event.level = .warn ∧
        (Pass.toldFlags event).map Pass.readFlag? = [some (.ok [request])]) pass.events requests ∧
      (pass.events.flatMap Pass.toldFlags).map Pass.readFlag? =
        requests.map fun request => some (.ok [request]) := by
  intro pass
  have read : ∀ request ∈ requests,
      (Pass.toldFlags (Pass.advice request)).map Pass.readFlag? = [some (.ok [request])] := by
    intro request member
    obtain ⟨value, together, done, among⟩ := parsed request member
    exact Pass.read_toldFlags (Flag.plain_of_parse done among)
  have events : pass.events = requests.map Pass.advice := rfl
  refine ⟨rfl, rfl, rfl, ?_, ?_⟩
  · rw [events, List.forall₂_map_left_iff, List.forall₂_same]
    intro request member
    exact ⟨rfl, read request member⟩
  · rw [events, List.flatMap_map, List.map_flatMap, List.flatMap_congr read]
    exact List.map_eq_flatMap.symm

/-- Requests of one value, whose package holds a slash and whose first target an equals sign. -/
def requestsOfFlag : List OpenRequest :=
  (Flag.parse "base/a/b=x=y, ALL-UNNAMED").toOption.getD []

theorem advice_reads_back_requestsOfFlag :
    let made := LoaderContext.ofLoader (Machine.start .all) ⟨7, "app"⟩
    let pass := fallback.openModules requestsOfFlag made.1 made.2
    (∀ request ∈ requestsOfFlag, ∃ value together,
        Flag.parse value = .ok together ∧ request ∈ together) ∧
      requestsOfFlag.length = 2 ∧
      (pass.events.flatMap Pass.toldFlags).map Pass.readFlag? =
        requestsOfFlag.map fun request => some (.ok [request]) := by
  have parsed : ∀ request ∈ requestsOfFlag, ∃ value together,
      Flag.parse value = .ok together ∧ request ∈ together := by
    intro request member
    exact ⟨"base/a/b=x=y, ALL-UNNAMED", requestsOfFlag, by decide, member⟩
  exact ⟨parsed, by decide, (advice_reads_back parsed _ _).2.2.2.2⟩

end StrategyKind

end ModuleOpens
