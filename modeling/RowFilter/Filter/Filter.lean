import RowFilter.Config
import RowFilter.Filter.Compile

/-!
# Filters

A `Filter` is an expression with the converter for its operands and, if it was pinned, the
configuration of its compilations.  Without a pinned configuration a filter is compiled with the
one that is the default at that time.
-/

namespace RowFilter

/-- An expression together with how it is compiled. -/
structure Filter where
  expr : FilterExpr
  converter : Converter
  pinned : Option FilterConfig

namespace Filter

/-- The filter of an expression, with the standard converter. -/
def ofExpr (expr : FilterExpr) : Filter :=
  ⟨expr, Converter.standard DateFormats.default, none⟩

/-- Reads a filter, with a converter of its own. -/
def readWith (converter : Converter) (text : Option String) : Except FilterError Filter :=
  (FilterExpr.read text).map fun expr => ⟨expr, converter, none⟩

/-- Reads a filter, with the standard converter. -/
def read (text : Option String) : Except FilterError Filter :=
  (FilterExpr.read text).map ofExpr

/-- The filter with a configuration for all its compilations. -/
def withConfig (filter : Filter) (config : FilterConfig) : Filter :=
  { filter with pinned := some config }

/-- The configuration of the next compilation, given the default. -/
def config (filter : Filter) (otherwise : FilterConfig) : FilterConfig :=
  filter.pinned.getD otherwise

/-- Two filters joined; how the first one is compiled stays. -/
def join (op : Connective) (left right : Filter) : Filter :=
  { left with expr := left.expr.join op right.expr }

/-- The opposite filter. -/
def not (filter : Filter) : Filter :=
  { filter with expr := filter.expr.not }

/-- How the operands of a filter become literals in a configuration. -/
def coercion (filter : Filter) (config : FilterConfig) : Coercion :=
  ⟨filter.converter, config.caseSensitive⟩

/-- The plan of a filter in a configuration. -/
def compileWith {Field Predicate : Type} (filter : Filter) (typeOf : Field → DataType)
    (config : FilterConfig) : Plan Field Predicate (Option Predicate) :=
  .note (.compiling filter.expr config.caseSensitive)
    (Compiler.compile ⟨typeOf, filter.coercion config⟩ filter.expr)

/-- The plan of a filter, given the default configuration. -/
def compile {Field Predicate : Type} (filter : Filter) (typeOf : Field → DataType)
    (otherwise : FilterConfig) : Plan Field Predicate (Option Predicate) :=
  filter.compileWith typeOf (filter.config otherwise)

end Filter

end RowFilter
