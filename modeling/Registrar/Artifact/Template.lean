import Registrar.Text.Lines

/-!
The fixed text of a generated handler: an opening up to the lookup table, the serializer's methods
with the start of the region of context classes, and an end with the attribute's declaration.
-/

set_option autoImplicit false

namespace Registrar.Template

def openingLines : List String :=
  ["",
   "using System.Text.Json;",
   "using System.Text.Json.Serialization;",
   "using System.Text.Json.Serialization.Metadata;",
   "",
   "namespace JSONHandler",
   "\x7b",
   "    public static class JSONHandler ",
   "    \x7b",
   "        private static readonly Dictionary<Type, JsonTypeInfo> _serializerContexts = new  Dictionary<Type, JsonTypeInfo>()\x7b"]

def middleLines : List String :=
  ["",
   "        \x7d;",
   "",
   "        public static string Serialize<T>(T obj)",
   "        \x7b",
   "            if (!_serializerContexts.TryGetValue(typeof(T), out var context))",
   "            \x7b",
   "                throw new ArgumentException($\"No serializer context found for type \x7b typeof(T)\x7d\");",
   "            \x7d",
   "",
   "            return System.Text.Json.JsonSerializer.Serialize(obj, context);",
   "        \x7d",
   "",
   "        public static T Deserialize<T>(string json)",
   "            \x7b",
   "            if (!_serializerContexts.TryGetValue(typeof(T), out var context))",
   "                \x7b",
   "                throw new ArgumentException($\"No serializer context found for type \x7btypeof(T)\x7d\");",
   "                \x7d",
   "",
   "            return System.Text.Json.JsonSerializer.Deserialize<T>(json, (JsonTypeInfo<T>)context);",
   "            \x7d",
   "        \x7d",
   "#region ContextualizationOfClasses",
   "    // space for adding context classes"]

def closingLines : List String :=
  ["",
   "#endregion",
   "",
   "    [AttributeUsage(AttributeTargets.Class)]",
   "    public class JsonAotAttribute : Attribute \x7b \x7d",
   "    \x7d"]

def opening : String := Text.unlines openingLines

def middle : String := Text.unlines middleLines

def closing : String := Text.unlines closingLines

end Registrar.Template
