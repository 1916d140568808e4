import ShaderLoom.Value.Arrays
import ShaderLoom.Value.Entries
import ShaderLoom.Failure
import ShaderLoom.Text.Case

/-!
# Platforms

A platform is the graphics processor with the shading language it offers and the features that it
supports. The defines derived from it let shaders work around limitations of a vendor's driver and
detect which features are available.
-/

namespace ShaderLoom

open Number

/-- What is known about the platform that shaders are made for. -/
structure Platform where
  /-- The vendor of the graphics processor. -/
  gpu : String
  /-- The name of the shading language. -/
  language : String
  /-- The version of the shading language. -/
  version : Int
  /-- The supported features, each once. -/
  features : List Value

namespace Platform

/-- The integer that a version is read as; floats are cut toward zero. -/
def readVersion : Value → Answer Int
  | .bool b => .ok b.toInt
  | .int n => .ok n
  | .float x => cut (.ofDouble x)
  | .scalar s => cut s.quantity
  | .array a =>
    match a.shape, a.cells with
    | [], [s] => cut s.quantity
    | _, _ => .error .unsupported
  | .text s =>
    match readInt? s.toList with
    | some n => .ok n
    | none => .error .invalid
  | _ => .error .unsupported
where
  cut : Quantity → Answer Int
    | .finite q => .ok (q.num.tdiv q.den)
    | .infinite _ => .error .overflow
    | .missing => .error .invalid

/-- The members of a sequence that can serve as keys, each once. -/
def distinct (vs : List Value) : Answer (List Value) :=
  vs.foldlM (fun seen v =>
    if v.isHashable then
      .ok (if seen.any (·.sameKey v) then seen else seen ++ [v])
    else .error .unsupported) []

/-- The names of the options of a platform. -/
def optionNames : List String := ["gpu", "shading_language", "shading_language_version", "features"]

/-- Read a platform from a map of options. -/
def ofOptions (options : Entries) : Answer Platform := do
  let known : Value → Bool
    | .text s => optionNames.contains s
    | _ => false
  if options.all fun e => known e.1 then
    let option (name : String) (default : Value) : Value :=
      (Entries.getText? options name).getD default
    let gpu ← (← (option "gpu" (.text "")).orElse (.text "")).display
    let language ← (option "shading_language" (.text "glsl")).display
    let version ← readVersion (option "shading_language_version" (.int 100))
    let features ← distinct (← (option "features" (.tuple [])).members)
    .ok ⟨gpu, language, version, features⟩
  else .error .unsupported

/-- The text that messages show for a platform. -/
def inspect (p : Platform) : String :=
  s!"<PlatformInfo gpu={Text.quoted p.gpu} {p.language} {intText p.version}>"

/-- Whether a feature is supported. -/
def supports (p : Platform) (feature : String) : Bool :=
  p.features.any (·.sameKey (.text feature))

end Platform

/-- Lines of code, each ended by a line break. -/
def codeLines (lines : List String) : String := joinTexts "" (lines.map (· ++ "\n"))

/-- The defines that describe each known vendor. -/
def vendorDefines : List (String × List String) :=
  [("apple",
      ["#define APPLE_GPU",
        "// Apple optimizes away the calculation necessary for emulated fp64",
        "#define FP64_CODE_ELIMINATION_WORKAROUND 1",
        "#define FP32_TAN_PRECISION_WORKAROUND 1",
        "// Intel GPU doesn't have full 32 bits precision in same cases, causes overflow",
        "#define FP64_HIGH_BITS_OVERFLOW_WORKAROUND 1"]),
    ("nvidia",
      ["#define NVIDIA_GPU",
        "// Nvidia optimizes away the calculation necessary for emulated fp64",
        "#define FP64_CODE_ELIMINATION_WORKAROUND 1"]),
    ("intel",
      ["#define INTEL_GPU",
        "// Intel optimizes away the calculation necessary for emulated fp64",
        "#define FP64_CODE_ELIMINATION_WORKAROUND 1",
        "// Intel's built-in 'tan' function doesn't have acceptable precision",
        "#define FP32_TAN_PRECISION_WORKAROUND 1",
        "// Intel GPU doesn't have full 32 bits precision in same cases, causes overflow",
        "#define FP64_HIGH_BITS_OVERFLOW_WORKAROUND 1"]),
    ("amd", ["#define AMD_GPU"])]

/-- The defines for a vendor that is not known. -/
def unknownVendorDefines : List String :=
  ["#define DEFAULT_GPU",
    "// Prevent driver from optimizing away the calculation necessary for emulated fp64",
    "#define FP64_CODE_ELIMINATION_WORKAROUND 1",
    "// Software renderers' 'tan' function doesn't have acceptable precision",
    "#define FP32_TAN_PRECISION_WORKAROUND 1",
    "// If the GPU doesn't have full 32 bits precision, will causes overflow",
    "#define FP64_HIGH_BITS_OVERFLOW_WORKAROUND 1"]

/-- The defines that describe the vendor of a platform, whatever the case of its letters. -/
def gpuDefines (platform : Option Platform) : String :=
  let gpu := String.ofList (Text.lower ((platform.map (·.gpu)).getD "").toList)
  codeLines ((vendorDefines.lookup gpu).getD unknownVendorDefines)

/-- The features that are enabled by an extension: the feature, the extension and its defines. -/
def featureExtensions : List (String × String × List String) :=
  [("glsl-frag-depth", "GL_EXT_frag_depth",
      ["# define FEATURE_GLSL_FRAG_DEPTH", "# define gl_FragDepth gl_FragDepthEXT"]),
    ("glsl-derivatives", "GL_OES_standard_derivatives", ["# define FEATURE_GLSL_DERIVATIVES"]),
    ("glsl-frag-data", "GL_EXT_draw_buffers", ["# define FEATURE_GLSL_DRAW_BUFFERS"]),
    ("glsl-texture-lod", "GL_EXT_shader_texture_lod", ["# define FEATURE_GLSL_TEXTURE_LOD"])]

/-- The defines of features that newer versions of the language always have. -/
def builtinFeatureDefines : List String :=
  ["#if (__VERSION__ > 120)", "", "# define FEATURE_GLSL_DERIVATIVES",
    "# define FEATURE_GLSL_DRAW_BUFFERS", "# define FEATURE_GLSL_FRAG_DEPTH",
    "# define FEATURE_GLSL_TEXTURE_LOD", "", "#endif // __VERSION__"]

/-- The defines that make the dialects compatible, enabling the extensions that a platform
supports. -/
def versionDefines (platform : Option Platform) : String :=
  let supported := featureExtensions.filter fun f => platform.any (·.supports f.1)
  let blocks := supported.map fun (_, extension, defines) =>
    ["", s!"#ifdef {extension}", s!"#extension {extension} : enable"] ++ defines ++ ["#endif"]
  codeLines (builtinFeatureDefines ++ blocks.flatten)

end ShaderLoom
