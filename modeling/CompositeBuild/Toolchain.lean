/-
# Toolchain settings

What a module tells its language toolchain: the version to compile for, the arguments of the
compiler, and the compiler plugins with their options.
-/
import CompositeBuild.Json.Record

namespace CompositeBuild

/-- The toolchain settings of a module. -/
structure ToolchainSettings where
  /-- The version to compile for, such as `17`. -/
  jvmTarget : Option String
  compilerArgs : List String
  /-- The archives of the compiler plugins, in the order of the classpath. -/
  pluginClasspath : List String
  pluginOptions : List String
deriving DecidableEq, Repr

namespace ToolchainSettings

/-- The settings that say nothing. -/
def empty : ToolchainSettings := ⟨none, [], [], []⟩

/-- The settings say nothing. -/
def isEmpty (s : ToolchainSettings) : Bool :=
  s.jvmTarget.isNone && s.compilerArgs.isEmpty && s.pluginClasspath.isEmpty &&
    s.pluginOptions.isEmpty

/-- The JSON form of toolchain settings. -/
def toJson (s : ToolchainSettings) : Json :=
  .object
    [("jvmTarget", Json.ofText? s.jvmTarget),
     ("compilerArgs", Json.strings s.compilerArgs),
     ("pluginClasspath", Json.strings s.pluginClasspath),
     ("pluginOptions", Json.strings s.pluginOptions)]

/-- Decodes toolchain settings. -/
def decoder : Json.Decoder ToolchainSettings :=
  .record "ToolchainSettings"
    (fun room =>
      .cons (.nullable "jvmTarget" (Json.Decoder.string room)) <|
      .cons (.defaulted "compilerArgs" [] (Json.Decoder.list Json.Decoder.string room)) <|
      .cons (.defaulted "pluginClasspath" [] (Json.Decoder.list Json.Decoder.string room)) <|
      .cons (.defaulted "pluginOptions" [] (Json.Decoder.list Json.Decoder.string room)) .nil)
    fun (jvmTarget, compilerArgs, pluginClasspath, pluginOptions, _) =>
      ⟨jvmTarget, compilerArgs, pluginClasspath, pluginOptions⟩

end ToolchainSettings

end CompositeBuild
