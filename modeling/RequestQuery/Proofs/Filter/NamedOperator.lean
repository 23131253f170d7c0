import RequestQuery.Proofs.Filter.Items

/-! # The operator that a text names

A filter value may be cut in front, into operator and value, when the request is
read, or later, when its operator is looked for.  If the settings do not say
otherwise both look for the same delimiter, and it makes no difference which of
them cuts (`FilterValue.ofRaw_ofRequest`): the operator is what stands in front of
the first delimiter, and everything behind it is the value, further delimiters
included.  A text without the delimiter is a value for the default operator.

Whatever names an operator is resolved, the default of a domain too: letter case and
blanks do not count, and an alias is replaced by what it stands for.
-/
namespace RequestQuery

/-- Unless a delimiter is set for request parameters, it is the one of filter values. -/
theorem DefinitionSettings.valueDelimiterInUse_of_unset {d : DefinitionSettings}
    (h : d.valueDelimiter.getD "" = "") (f : FilterSettings) :
    d.valueDelimiterInUse f = f.delimiterInUse := by
  rw [valueDelimiterInUse, h]
  rfl

namespace FilterValue

variable (f : FilterSettings) (domain : Domain)

/-- A text that was cut at the delimiter is read as the text itself. -/
theorem ofRaw_ofRequest_delimiterInUse (text : String) :
    ofRaw f domain (.ofRequest text f.delimiterInUse) = ofText f domain text := by
  rw [RawValue.ofRequest, ofText]
  cases hcut : Text.cutAt? f.delimiterInUse text with
  | some parts => rfl
  | none =>
    show ofText f domain text = _
    rw [ofText, hcut]

variable {f} {domain} {text : String}

/-- The operator stands in front of the first delimiter, and its value behind it. -/
theorem ofText_of_firstAt {before rest : String} (h : Text.FirstAt f.delimiterInUse text before rest) :
    ofText f domain text = ⟨f.resolveAlias before, .single rest⟩ := by
  rw [ofText, (Text.cutAt?_eq_some_iff f.delimiterInUse_ne_empty).mpr h]

/-- Without the delimiter all of the text is a value. -/
theorem ofText_of_not_occurs (h : ¬ Text.Occurs f.delimiterInUse text) :
    ofText f domain text = ⟨f.resolveAlias (f.defaults.forDomain domain), .single text⟩ := by
  rw [ofText, (Text.cutAt?_eq_none_iff f.delimiterInUse_ne_empty).mpr h]
  rfl

/-- **It makes no difference where a text is cut.**  If no delimiter is set for request parameters, a
parameter means the same before and after it is cut: the first delimiter stands between the operator
and its value, and a text that has none is a value for the default operator of the domain, which is
resolved as well. -/
theorem ofRaw_ofRequest (settings : Settings) (domain : Domain) (text : String)
    (hunset : settings.definitions.valueDelimiter.getD "" = "") :
    let f := settings.filters
    ofRaw f domain (.ofRequest text (settings.definitions.valueDelimiterInUse f)) =
        ofRaw f domain (.single text) ∧
      (Text.Occurs f.delimiterInUse text →
        ∃ before rest, Text.FirstAt f.delimiterInUse text before rest ∧
          ofRaw f domain (.single text) = ⟨f.resolveAlias before, .single rest⟩) ∧
      (¬ Text.Occurs f.delimiterInUse text →
        ofRaw f domain (.single text) = ⟨f.resolveAlias (f.defaults.forDomain domain), .single text⟩) := by
  intro f
  have hsingle : ofRaw f domain (.single text) = ofText f domain text := rfl
  refine ⟨?_, ?_, ?_⟩
  · rw [DefinitionSettings.valueDelimiterInUse_of_unset hunset, ofRaw_ofRequest_delimiterInUse, hsingle]
  · intro hoccurs
    obtain ⟨before, rest, hfirst⟩ := Text.exists_firstAt f.delimiterInUse_ne_empty hoccurs
    exact ⟨before, rest, hfirst, hsingle.trans (ofText_of_firstAt hfirst)⟩
  · intro hnot
    exact hsingle.trans (ofText_of_not_occurs hnot)

/-- A value that begins with half a delimiter, behind an alias, and one without any delimiter. -/
theorem ofRaw_ofRequest_colons :
    let settings : Settings := { filters := { delimiter := "::", aliases := [("from", "GTE")] } }
    let f := settings.filters
    settings.definitions.valueDelimiter.getD "" = "" ∧
      ofRaw f .number (.ofRequest " From :::5::6" (settings.definitions.valueDelimiterInUse f)) =
        ⟨"gte", .single ":5::6"⟩ ∧
      ofRaw f .number (.ofRequest "5:6" (settings.definitions.valueDelimiterInUse f)) =
        ⟨"eq", .single "5:6"⟩ := by
  intro settings f
  have hunset : settings.definitions.valueDelimiter.getD "" = "" := rfl
  obtain ⟨hcut, hnamed, -⟩ := ofRaw_ofRequest settings .number " From :::5::6" hunset
  obtain ⟨hcut', -, hbare⟩ := ofRaw_ofRequest settings .number "5:6" hunset
  refine ⟨hunset, ?_, ?_⟩
  · obtain ⟨before, rest, hfirst, hread⟩ := hnamed ⟨" From ", ":5::6", by decide⟩
    have hparts : Text.cutAt? f.delimiterInUse " From :::5::6" = some (" From ", ":5::6") := by decide
    obtain ⟨rfl, rfl⟩ := hfirst.unique (Text.firstAt_of_cutAt? hparts)
    rw [hcut, hread]
    decide
  · have hnone : Text.cutAt? f.delimiterInUse "5:6" = none := by decide
    have hnot : ¬ Text.Occurs f.delimiterInUse "5:6" :=
      (Text.cutAt?_eq_none_iff f.delimiterInUse_ne_empty).mp hnone
    rw [hcut', hbare hnot]
    decide

/-- A text without delimiter is not for the default operator itself where an alias renames that. -/
theorem ofRaw_renamed_default :
    let f : FilterSettings := { aliases := [("con", "eq")] }
    ¬ Text.Occurs f.delimiterInUse "Ali" ∧ f.defaults.forDomain .text = "con" ∧
      ofRaw f .text (.ofRequest "Ali" f.delimiterInUse) = ⟨"eq", .single "Ali"⟩ ∧
      ofRaw f .text (.single "Ali") = ⟨"eq", .single "Ali"⟩ := by
  intro f
  have hnone : Text.cutAt? f.delimiterInUse "Ali" = none := by decide
  refine ⟨(Text.cutAt?_eq_none_iff f.delimiterInUse_ne_empty).mp hnone, ?_, ?_, ?_⟩
  all_goals decide

end FilterValue
end RequestQuery
