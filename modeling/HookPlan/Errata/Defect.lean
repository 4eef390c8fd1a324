import HookPlan.Hook
import HookPlan.Mark
import HookPlan.Value.Type

/-!
Defects: what can be wrong with a plan, each cause with what its wording needs.
-/
namespace HookPlan

/-- A defect of a plan or of the options it is loaded with. -/
inductive Defect where
  /-- A defect that an extractor, a modifier or a directive loader of the embedding program found. -/
  | custom (text : String)
  | malformedYaml
  | unreadableFile (path : String)
  | invalidOption (name detail : String)
  | unterminatedArgument (name : String)
  | unterminatedSpecifier (offset : Nat)
  | invalidSpecifier (offset : Nat)
  | unmatchedBrace (offset : Nat)
  | missingExtractorName
  | unknownExtractor (name : String)
  | invalidExtractor (text : String)
  | captureWithoutPattern (group : Int) (mark : Mark)
  | captureBeyondPattern (group : Int) (mark : Mark) (greatest : Int) (line : Int)
  | literalNotScalar (mark : Mark)
  | unsupportedTag (tag : String) (mark : Mark)
  | malformedExpression (mark : Mark)
  | modifierNotMap (mark : Mark)
  | unknownModifier (mark : Mark) (registered : List String)
  | longPattern (length limit : Nat)
  | invalidPattern (pattern : String)
  | directiveNotMap (mark : Mark)
  | unknownDirective (mark : Mark)
  | directiveShape (mark : Mark)
  | unregisteredDirective (name : String)
  | forbiddenHook (directive : String) (mark : Mark) (hook : Option Hook)
  | missingKey (path missing : String)
  | planShape (mark : Mark) (path : String)
  | topLevelNotMap (mark : Mark)
  | topLevelNotWhen (mark : Mark)
  | remapNotMap (mark : Mark)
  | hookNotScalar (mark : Mark)
  | unknownHook (name : String) (mark : Mark)
  | whenWithoutBody (mark : Mark)
  | ignoreCaseNotBoolean (mark : Mark)
  | notComparison (key : String) (mark : Mark) (known : List String)
  | comparisonNeedsString (key : String) (mark : Mark) (type : ValueType)
  | patternNotScalar (key : String) (mark : Mark)
  | emptyAnyOf (mark : Mark)
  | anyOfElement (mark : Mark)
  | caseNotMap (mark : Mark)
  | caseOfSeveral (mark : Mark)
  | withoutCases (mark : Mark)
  | replyType (mark : Mark) (type : ValueType)
  | statusRange (status : Int) (mark : Mark) (least greatest : Int)
  deriving DecidableEq, Repr

private def joined (names : List String) : String := ", ".intercalate names

/-- The wording of a defect. What a reader of YAML, patterns or files has to say about it is left open. -/
def Defect.text : Defect → String
  | custom text => text
  | malformedYaml => "The text is not YAML."
  | unreadableFile path => s!"Unable to read \"{path}\": "
  | invalidOption name detail => s!"Invalid load option \"{name}\": {detail}."
  | unterminatedArgument name => s!"Argument for \"{name}\" is not properly terminated with '>'."
  | unterminatedSpecifier offset => s!"Specifier at offset {offset} is not terminated with '\x7d'."
  | invalidSpecifier offset =>
    s!"Invalid specifier at offset {offset}; an extractor name or capture group index is required."
  | unmatchedBrace offset => s!"Unmatched '\x7d' at offset {offset}; use '\x7d\x7d' for a literal brace."
  | missingExtractorName => "Extractor name required but not found."
  | unknownExtractor name => s!"Extractor \"{name}\" not found."
  | invalidExtractor text => s!"Invalid syntax for extractor \"{text}\" - not a valid specifier."
  | captureWithoutPattern group mark =>
    s!"Regular expression capture group {group} used at {mark.render} but no regular expression is active."
  | captureBeyondPattern group mark greatest line =>
    s!"Regular expression capture group {group} used at {mark.render} but the maximum capture group is {greatest}" ++
      s!" in the active regular expression from line {line}."
  | literalNotScalar mark =>
    s!"\"!literal\" tag used on value at {mark.render} which is not a string as required for a literal."
  | unsupportedTag tag mark => s!"\"{tag}\" tag for extractor expression at {mark.render} is not supported."
  | malformedExpression mark => s!"Feature expression at {mark.render} is not properly structured."
  | modifierNotMap mark => s!"Modifier at {mark.render} is not an object as required."
  | unknownModifier mark [] => s!"Modifier at {mark.render} has no recognized key (no modifiers are registered)."
  | unknownModifier mark registered =>
    s!"Modifier at {mark.render} has no recognized key (registered: {joined registered})."
  | longPattern length limit => s!"Regular expression is {length} characters; the limit is {limit}."
  | invalidPattern pattern => s!"Invalid regular expression \"{pattern}\": "
  | directiveNotMap mark => s!"Directive at {mark.render} is not an object as required."
  | unknownDirective mark => s!"Directive at {mark.render} has no recognized tag."
  | directiveShape mark => s!"Directive at {mark.render} is not an object or a sequence as required."
  | unregisteredDirective name => s!"Directive \"{name}\" is not registered with this configuration."
  | forbiddenHook directive mark hook =>
    s!"Directive \"{directive}\" at {mark.render} is not allowed on hook \"{Hook.nameOf hook}\"."
  | missingKey path missing => s!"Key \"{path}\" not found - no such key \"{missing}\"."
  | planShape mark path =>
    s!"Configuration at {mark.render} for \"{path}\" is not a directive or a list of directives."
  | topLevelNotMap mark => s!"Top level directive at {mark.render} is not an object as required."
  | topLevelNotWhen mark => s!"Top level directive at {mark.render} is not a \"when\" directive as required."
  | remapNotMap mark => s!"Configuration at {mark.render} is not a directive object as required."
  | hookNotScalar mark => s!"Value for \"when\" at {mark.render} is not a hook name."
  | unknownHook name mark => s!"Invalid hook name \"{name}\" in \"when\" directive at {mark.render}."
  | whenWithoutBody mark => s!"The \"when\" directive at {mark.render} has no \"do\" key."
  | ignoreCaseNotBoolean mark => s!"Value for \"ignore-case\" at {mark.render} is not a boolean."
  | notComparison key mark known =>
    s!"Key \"{key}\" at {mark.render} is not a comparison (expected one of {joined known})."
  | comparisonNeedsString key mark type =>
    s!"Comparison \"{key}\" at {mark.render} requires a string but the value is {type.render}."
  | patternNotScalar key mark => s!"Pattern for \"{key}\" at {mark.render} is not a string."
  | emptyAnyOf mark => s!"Value for \"any-of\" at {mark.render} has no comparisons."
  | anyOfElement mark =>
    s!"Element of \"any-of\" at {mark.render} must be an object with exactly one comparison."
  | caseNotMap mark => s!"Case at {mark.render} is not an object as required."
  | caseOfSeveral mark => s!"Case at {mark.render} has more than one comparison."
  | withoutCases mark => s!"The \"with\" directive at {mark.render} has neither \"select\" nor \"do\"."
  | replyType mark type =>
    s!"Value for \"proxy-reply\" at {mark.render} must be a status or a [ status, reason ] list, not {type.render}."
  | statusRange status mark least greatest =>
    s!"Status {status} for \"proxy-reply\" at {mark.render} is not in the range {least}..{greatest}."

end HookPlan
