import EntityForge.Template.Basic

/-!
The files of an Entity Framework entity, also used for Entity Framework Core: a partial C# class with
change notification, and the part that holds hand-written extensions.
-/
namespace EntityForge.Template

def csharpClass : Template := [
  .when (.name "add_header") [
    .lines ["// <auto-generated>"],
    .line [.text "//     AUTO GENERATED FILE (", .hole (.name "target_name") .plain, .text ")"],
    .lines ["//", "//     Changes to this file are overwritten on the next run."],
    .line [
      .text "//     Put custom code into '",
      .hole (.name "class_name") .plain,
      .text ".Extensions.cs'."],
    .lines ["// </auto-generated>", ""]],
  .within (.name "cs_namespace") [
    .when (.name "add_comments") [
      .lines ["/// <summary>"],
      .line [.text "/// An entity of the '", .hole (.name "table_name") .plain, .text "' table."],
      .lines ["/// </summary>"]],
    .each "attribute" (.name "class_attributes") [
      .line [.text "[", .hole (.name "attribute") .plain, .text "]"]],
    .line [
      .text "public partial class ",
      .hole (.name "class_name") .plain,
      .text " : ",
      .hole (.name "base_types") (.joined ", ")],
    .lines [
      "\x7b",
      "    #region CLASS: _Helpers",
      "",
      "    private static class _Helpers",
      "    \x7b",
      "        internal static T ConvertTo<T>(object obj)",
      "        \x7b",
      "            if (null == obj || global::System.DBNull.Value.Equals(obj))",
      "            \x7b",
      "                return default(T);",
      "            \x7d",
      "",
      "            if (obj is T)",
      "            \x7b",
      "                return (T)obj;",
      "            \x7d",
      "",
      "            var targetType = global::System.Nullable.GetUnderlyingType(typeof(T)) ?? typeof(T);",
      "            return (T)global::System.Convert.ChangeType(obj, targetType);",
      "        \x7d",
      "    \x7d",
      "",
      "    #endregion",
      "",
      "    #region Fields"],
    .each "column" (.name "columns") [
      .lines [""],
      .when (.name "add_comments") [
        .lines ["    /// <summary>"],
        .line [
          .text "    /// Stores the value of '",
          .hole (.field "column" "name") .plain,
          .text "' column."],
        .lines ["    /// </summary>"]],
      .line [
        .text "    protected ",
        .hole (.field "column" "clr_type") .plain,
        .text " ",
        .hole (.field "column" "field") .plain,
        .text ";"]],
    .lines [
      "",
      "    #endregion",
      "",
      "    #region Events",
      "",
      "    /// <inheritdoc />",
      "    public event global::System.ComponentModel.PropertyChangedEventHandler PropertyChanged;",
      "",
      "    /// <inheritdoc />",
      "    public event global::System.ComponentModel.PropertyChangingEventHandler PropertyChanging;",
      "",
      "    #endregion",
      "",
      "    #region Extension points",
      "",
      "    partial void _OnBeforeGet(string columnName, ref object valueToReturn);",
      "",
      "    partial void _OnBeforeSet(string columnName, ref object valueToSet, object currentValue, ref object result);",
      "",
      "    partial void _OnSet(string columnName, object newValue, object oldValue);",
      "",
      "    partial void _OnSetComplete(string columnName, bool hasBeenSet, object currentValue, object oldValue, object newValue);",
      "",
      "    #endregion",
      "",
      "    #region Properties"],
    .each "column" (.name "columns") [
      .lines [""],
      .when (.name "add_comments") [
        .lines ["    /// <summary>"],
        .line [
          .text "    /// Gets ",
          .when (.field "column" "has_setter") "or sets ",
          .text "the value of '",
          .hole (.field "column" "name") .plain,
          .text "' column."],
        .lines ["    /// </summary>"]],
      .each "attribute" (.field "column" "attributes") [
        .line [.text "    [", .hole (.name "attribute") .plain, .text "]"]],
      .line [
        .text "    public ",
        .hole (.field "column" "clr_type") .plain,
        .text " ",
        .hole (.field "column" "property") .plain],
      .lines ["    \x7b", "        get", "        \x7b"],
      .line [
        .text "            object valueToReturn = this.",
        .hole (.field "column" "field") .plain,
        .text ";"],
      .line [
        .text "            this._OnBeforeGet(",
        .hole (.field "column" "name") .literal,
        .text ", ref valueToReturn);"],
      .lines [""],
      .line [
        .text "            return _Helpers.ConvertTo<",
        .hole (.field "column" "clr_type") .plain,
        .text ">(valueToReturn);"],
      .lines ["        \x7d"],
      .when (.field "column" "has_setter") [
        .lines ["", "        set", "        \x7b"],
        .line [
          .text "            object oldValue = this.",
          .hole (.field "column" "field") .plain,
          .text ";"],
        .lines [
          "            object valueToSet = value;",
          "            object beforeSetResult = null;"],
        .line [
          .text "            this._OnBeforeSet(",
          .hole (.field "column" "name") .literal,
          .text ", ref valueToSet, oldValue, ref beforeSetResult);"],
        .lines [
          "",
          "            var hasBeenSet = !object.Equals(beforeSetResult, false);",
          "            if (hasBeenSet)",
          "            \x7b"],
        .line [
          .text "                var newValue = _Helpers.ConvertTo<",
          .hole (.field "column" "clr_type") .plain,
          .text ">(valueToSet);"],
        .lines [
          "                var hasChanged = !object.Equals(oldValue, (object)newValue);",
          "",
          "                if (hasChanged)",
          "                \x7b"],
        .line [
          .text "                    this.PropertyChanging?.Invoke(this, new global::System.ComponentModel.PropertyChangingEventArgs(",
          .hole (.field "column" "property") .literal,
          .text "));"],
        .lines ["                \x7d", ""],
        .line [
          .text "                this.",
          .hole (.field "column" "field") .plain,
          .text " = newValue;"],
        .lines ["", "                if (hasChanged)", "                \x7b"],
        .line [
          .text "                    this.PropertyChanged?.Invoke(this, new global::System.ComponentModel.PropertyChangedEventArgs(",
          .hole (.field "column" "property") .literal,
          .text "));"],
        .line [
          .text "                    this._OnSet(",
          .hole (.field "column" "name") .literal,
          .text ", (object)newValue, oldValue);"],
        .lines ["                \x7d", "            \x7d", ""],
        .line [
          .text "            this._OnSetComplete(",
          .hole (.field "column" "name") .literal,
          .text ", hasBeenSet, (object)this.",
          .hole (.field "column" "field") .plain,
          .text ", oldValue, (object)value);"],
        .lines ["        \x7d"]],
      .lines ["    \x7d"]],
    .lines [
      "",
      "    #endregion",
      "",
      "    #region Indexer",
      "",
      "    /// <summary>",
      "    /// Gets or sets the value of a column by its name.",
      "    /// </summary>",
      "    public object this[string columnName]",
      "    \x7b",
      "        get",
      "        \x7b",
      "            return this.Get_Getters()[columnName.Trim()]();",
      "        \x7d",
      "",
      "        set",
      "        \x7b",
      "            this.Get_Setters()[columnName.Trim()](value);",
      "        \x7d",
      "    \x7d",
      "",
      "    #endregion",
      "",
      "    #region Methods",
      ""],
    .when (.name "add_comments") [
      .lines [
        "    /// <summary>",
        "    /// Copies the values of the columns to a dictionary.",
        "    /// </summary>",
        "    /// <param name=\"target\">The target dictionary.</param>",
        "    /// <param name=\"columnFilter\">An optional predicate of column name and value.</param>",
        "    /// <returns>That instance.</returns>"]],
    .line [
      .text "    public ",
      .hole (.name "class_name") .plain,
      .text " Copy_Columns_To(global::System.Collections.Generic.IDictionary<string, object> target, global::System.Func<string, object, bool> columnFilter = null)"],
    .lines [
      "    \x7b",
      "        if (null != target)",
      "        \x7b",
      "            foreach (var entry in this.Get_Columns())",
      "            \x7b",
      "                if (null == columnFilter || columnFilter(entry.Key, entry.Value))",
      "                \x7b",
      "                    target[entry.Key] = entry.Value;",
      "                \x7d",
      "            \x7d",
      "        \x7d",
      "",
      "        return this;",
      "    \x7d",
      ""],
    .when (.name "add_comments") [
      .lines [
        "    /// <summary>",
        "    /// Copies the values of the columns whose names match a pattern (case insensitive).",
        "    /// </summary>"]],
    .line [
      .text "    public ",
      .hole (.name "class_name") .plain,
      .text " Copy_Columns_To(global::System.Collections.Generic.IDictionary<string, object> target, string columnPattern)"],
    .lines [
      "    \x7b",
      "        return this.Copy_Columns_To(target, new global::System.Text.RegularExpressions.Regex(columnPattern, global::System.Text.RegularExpressions.RegexOptions.IgnoreCase));",
      "    \x7d",
      ""],
    .when (.name "add_comments") [
      .lines [
        "    /// <summary>",
        "    /// Copies the values of the columns whose names match a regular expression.",
        "    /// </summary>"]],
    .line [
      .text "    public ",
      .hole (.name "class_name") .plain,
      .text " Copy_Columns_To(global::System.Collections.Generic.IDictionary<string, object> target, global::System.Text.RegularExpressions.Regex columnRegex)"],
    .lines [
      "    \x7b",
      "        return this.Copy_Columns_To(target, (columnName, value) => null == columnRegex || columnRegex.IsMatch(columnName));",
      "    \x7d",
      ""],
    .when (.name "add_comments") [
      .lines ["    /// <summary>", "    /// Returns all column values.", "    /// </summary>"]],
    .lines [
      "    public global::System.Collections.Generic.IDictionary<string, object> Get_Columns()",
      "    \x7b",
      "        var result = new global::System.Collections.Generic.Dictionary<string, object>();",
      "        foreach (var entry in this.Get_Getters())",
      "        \x7b",
      "            result[entry.Key] = entry.Value();",
      "        \x7d",
      "",
      "        return result;",
      "    \x7d",
      ""],
    .when (.name "add_comments") [
      .lines [
        "    /// <summary>",
        "    /// Returns the getters of all columns.",
        "    /// </summary>"]],
    .lines [
      "    public global::System.Collections.Generic.IDictionary<string, global::System.Func<object>> Get_Getters()",
      "    \x7b",
      "        return new global::System.Collections.Generic.Dictionary<string, global::System.Func<object>>()",
      "        \x7b"],
    .each "column" (.name "columns") [
      .line [
        .text "            \x7b ",
        .hole (.field "column" "name") .literal,
        .text ", () => this.",
        .hole (.field "column" "property") .plain,
        .text " \x7d,"]],
    .lines ["        \x7d;", "    \x7d", ""],
    .when (.name "add_comments") [
      .lines [
        "    /// <summary>",
        "    /// Returns the setters of all columns that can be set.",
        "    /// </summary>"]],
    .line [
      .text "    public global::System.Collections.Generic.IDictionary<string, global::System.Func<object, ",
      .hole (.name "class_name") .plain,
      .text ">> Get_Setters()"],
    .lines ["    \x7b"],
    .line [
      .text "        return new global::System.Collections.Generic.Dictionary<string, global::System.Func<object, ",
      .hole (.name "class_name") .plain,
      .text ">>()"],
    .lines ["        \x7b"],
    .each "column" (.name "columns") [
      .when (.field "column" "has_setter") [
        .line [
          .text "            \x7b ",
          .hole (.field "column" "name") .literal,
          .text ", (value) => \x7b this.",
          .hole (.field "column" "property") .plain,
          .text " = _Helpers.ConvertTo<",
          .hole (.field "column" "clr_type") .plain,
          .text ">(value); return this; \x7d \x7d,"]]],
    .lines ["        \x7d;", "    \x7d", ""],
    .when (.name "add_comments") [
      .lines [
        "    /// <summary>",
        "    /// Sets a list of columns.",
        "    /// </summary>",
        "    /// <param name=\"columnsToSet\">The values to set, by column name.</param>",
        "    /// <returns>That instance.</returns>"]],
    .line [
      .text "    public ",
      .hole (.name "class_name") .plain,
      .text " Set_Columns(global::System.Collections.Generic.IEnumerable<global::System.Collections.Generic.KeyValuePair<string, object>> columnsToSet)"],
    .lines [
      "    \x7b",
      "        if (null != columnsToSet)",
      "        \x7b",
      "            var allSetters = this.Get_Setters();",
      "            foreach (var entry in columnsToSet)",
      "            \x7b",
      "                allSetters[entry.Key.Trim()](entry.Value);",
      "            \x7d",
      "        \x7d",
      "",
      "        return this;",
      "    \x7d",
      "",
      "    #endregion",
      "\x7d"]]]

def csharpExtensions : Template := [
  .within (.name "cs_namespace") [
    .lines ["/// <summary>"],
    .line [
      .text "/// Extensions of <see cref=\"",
      .hole (.name "class_name") .plain,
      .text "\" />."],
    .lines ["/// This file is created once and never overwritten.", "/// </summary>"],
    .line [.text "partial class ", .hole (.name "class_name") .plain],
    .lines ["\x7b", "    #region Constructors", "", "    /// <summary>"],
    .line [
      .text "    /// Initializes a new instance of the <see cref=\"",
      .hole (.name "class_name") .plain,
      .text "\" /> class."],
    .lines ["    /// </summary>"],
    .line [.text "    public ", .hole (.name "class_name") .plain, .text "()"],
    .lines ["        : this(null)", "    \x7b", "    \x7d", "", "    /// <summary>"],
    .line [
      .text "    /// Initializes a new instance of the <see cref=\"",
      .hole (.name "class_name") .plain,
      .text "\" /> class."],
    .lines [
      "    /// </summary>",
      "    /// <param name=\"initialValues\">The initial column values.</param>"],
    .line [
      .text "    public ",
      .hole (.name "class_name") .plain,
      .text "(global::System.Collections.Generic.IEnumerable<global::System.Collections.Generic.KeyValuePair<string, object>> initialValues)"],
    .lines [
      "    \x7b",
      "        this.Set_Columns(initialValues);",
      "    \x7d",
      "",
      "    #endregion",
      "",
      "    #region Column hooks",
      "",
      "    partial void _OnBeforeGet(string columnName, ref object valueToReturn)",
      "    \x7b",
      "    \x7d",
      "",
      "    partial void _OnBeforeSet(string columnName, ref object valueToSet, object currentValue, ref object result)",
      "    \x7b",
      "        // set 'result' to false to keep the current value",
      "    \x7d",
      "",
      "    partial void _OnSet(string columnName, object newValue, object oldValue)",
      "    \x7b",
      "    \x7d",
      "",
      "    partial void _OnSetComplete(string columnName, bool hasBeenSet, object currentValue, object oldValue, object newValue)",
      "    \x7b",
      "    \x7d",
      "",
      "    #endregion",
      "\x7d"]]]

end EntityForge.Template
